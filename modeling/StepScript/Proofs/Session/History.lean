import StepScript.Engine.Session
import StepScript.Proofs.Engine.Stream

/-!
# Histories of a session

A history is a list of operations that callers perform one after the other.  Whatever the history,
at most one stream of a session is suspended at a time, and the engine is running then
(`Session.exclusive_after`): every other stream has yet to begin, has shown its last snapshot or has
ended.
-/

namespace StepScript

/-- What is left of a stream that has replied. -/
def Reply.rest? : Reply → Option Stream
  | .snapshot _ rest => some rest
  | .outcome _ | .interrupted _ => none

namespace Engine

variable {engine : Engine} {stream rest : Stream}

/-- A running engine takes nothing from a stream that is not suspended. -/
theorem next_of_not_suspended (busy : engine.isRunning = true) (apart : ¬stream.IsSuspended) :
    (engine.next stream).1 = engine := by
  cases stream with
  | unstarted script speed => simp [next, start, busy]
  | suspended lines control => simp at apart
  | settled outcome => rfl

/-- Giving up a stream that is not suspended leaves the engine as it is. -/
theorem close_of_not_suspended (apart : ¬stream.IsSuspended) : engine.close stream = engine := by
  cases stream with
  | unstarted script speed => rfl
  | suspended lines control => simp at apart
  | settled outcome => rfl

/-- What is left of a stream that was asked to go on is suspended or settled, as the phase of the
engine says. -/
theorem shows_of_rest? (left : (engine.next stream).2.rest? = some rest) :
    ∃ shown, (engine.next stream).2 = .snapshot shown rest ∧
      (engine.next stream).1.Shows rest shown := by
  cases answer : (engine.next stream).2 with
  | snapshot shown other =>
    obtain rfl : other = rest := by simpa [answer, Reply.rest?] using left
    exact ⟨shown, rfl, next_shows (Prod.ext rfl answer)⟩
  | outcome reached => simp [answer, Reply.rest?] at left
  | interrupted cause => simp [answer, Reply.rest?] at left

/-- A stream that is suspended behind a snapshot leaves the engine running. -/
theorem isRunning_of_rest? (left : (engine.next stream).2.rest? = some rest)
    (suspended : rest.IsSuspended) : (engine.next stream).1.isRunning = true := by
  rcases shows_of_rest? left with ⟨shown, _, shows⟩
  exact shows.isRunning suspended

/-- On a running engine only the suspended stream goes on. -/
theorem isSuspended_of_rest? (busy : engine.isRunning = true)
    (left : (engine.next stream).2.rest? = some rest) : stream.IsSuspended := by
  cases stream with
  | unstarted script speed => simp [next, start, busy, Reply.rest?] at left
  | suspended lines control => simp
  | settled outcome => simp [next, Reply.rest?] at left

end Engine

namespace Session

section Streams

variable {engine : Engine} {streams : List (Text × Option Stream)} {id other : Text}
  {stream : Option Stream}

@[simp] theorem stream?_store_self : (Session.mk engine (store id stream streams)).stream? id =
    stream := by
  unfold stream?
  dsimp only
  induction streams with
  | nil => simp [store]
  | cons entry rest ih =>
    rcases entry with ⟨first, old⟩
    by_cases same : first = id
    · simp [store, same]
    · have passed : (id == first) = false := beq_eq_false_iff_ne.mpr (Ne.symm same)
      rw [store, if_neg same, List.lookup_cons, passed]
      exact ih

theorem stream?_store_of_ne (apart : other ≠ id) :
    (Session.mk engine (store id stream streams)).stream? other =
      (Session.mk engine streams).stream? other := by
  unfold stream?
  dsimp only
  have passed : (other == id) = false := beq_eq_false_iff_ne.mpr apart
  induction streams with
  | nil => simp [store, List.lookup_cons, passed]
  | cons entry rest ih =>
    rcases entry with ⟨first, old⟩
    by_cases same : first = id
    · rw [store, if_pos same, List.lookup_cons, List.lookup_cons, same, passed]
    · rw [store, if_neg same, List.lookup_cons, List.lookup_cons]
      split
      · rfl
      · exact ih

end Streams

variable {session : Session} {id other : Text}

/-- Asking the stream under an identifier to go on asks the engine. -/
theorem next_eq {stream : Stream} (found : session.stream? id = some stream) :
    session.next id =
      (⟨(session.engine.next stream).1,
        store id (session.engine.next stream).2.rest? session.streams⟩,
        some (session.engine.next stream).2) := by
  rw [next, found]
  rfl

theorem perform_next_eq {stream : Stream} (found : session.stream? id = some stream) :
    session.perform (.next id) =
      (⟨(session.engine.next stream).1,
        store id (session.engine.next stream).2.rest? session.streams⟩,
        .replied (some (session.engine.next stream).2)) := by
  rw [perform, next_eq found]

theorem next_of_none (ended : session.stream? id = none) : session.next id = (session, none) := by
  rw [next, ended]

theorem close_eq {stream : Stream} (found : session.stream? id = some stream) :
    session.close id = ⟨session.engine.close stream, store id none session.streams⟩ := by
  rw [close, found]

theorem close_of_none (ended : session.stream? id = none) : session.close id = session := by
  rw [close, ended]

def after (session : Session) : List Operation → Session
  | [] => session
  | operation :: later => (session.perform operation).1.after later

theorem after_induction {invariant : Session → Prop}
    (kept : ∀ session operation, invariant session → invariant (session.perform operation).1)
    (history : List Operation) :
    ∀ session, invariant session → invariant (session.after history) := by
  induction history with
  | nil => exact fun session holds => holds
  | cons operation later ih =>
    intro session holds
    exact ih _ (kept session operation holds)

/-! ## One suspended stream at a time -/

/-- The stream under an identifier stands between two snapshots. -/
def Suspends (session : Session) (id : Text) : Prop :=
  ∃ stream, session.stream? id = some stream ∧ stream.IsSuspended

/-- At most one stream is suspended, and the engine is running then. -/
structure Exclusive (session : Session) : Prop where
  running : ∀ id, session.Suspends id → session.engine.isRunning = true
  unique : ∀ id other, session.Suspends id → session.Suspends other → other = id

/-- Keeping what is left of one stream leaves one suspended stream at most, if the engine goes on
running for the others and for what is left. -/
theorem Exclusive.store {engine : Engine} {rest : Option Stream} (exclusive : session.Exclusive)
    (others : ∀ other, session.Suspends other → other ≠ id → engine.isRunning = true)
    (left : ∀ stream, rest = some stream → stream.IsSuspended →
      engine.isRunning = true ∧ ∀ other, session.Suspends other → other = id) :
    Exclusive ⟨engine, Session.store id rest session.streams⟩ := by
  have elsewhere : ∀ other, other ≠ id →
      Suspends ⟨engine, Session.store id rest session.streams⟩ other → session.Suspends other := by
    rintro other apart ⟨stream, found, suspended⟩
    rw [stream?_store_of_ne apart] at found
    exact ⟨stream, found, suspended⟩
  have here : Suspends ⟨engine, Session.store id rest session.streams⟩ id →
      engine.isRunning = true ∧ ∀ other, session.Suspends other → other = id := by
    rintro ⟨stream, found, suspended⟩
    exact left stream (stream?_store_self.symm.trans found) suspended
  constructor
  · intro other suspends
    by_cases same : other = id
    · exact (here (same ▸ suspends)).1
    · exact others other (elsewhere other same suspends) same
  · intro first second suspends suspendsToo
    by_cases same : first = id
    · by_cases sameToo : second = id
      · exact sameToo.trans same.symm
      · subst same
        exact (here suspends).2 second (elsewhere second sameToo suspendsToo)
    · by_cases sameToo : second = id
      · subst sameToo
        exact ((here suspendsToo).2 first (elsewhere first same suspends)).symm
      · exact exclusive.unique first second (elsewhere first same suspends)
          (elsewhere second sameToo suspendsToo)

/-- While a stream is suspended, the streams under other identifiers are not. -/
theorem Exclusive.apart (exclusive : session.Exclusive) (suspends : session.Suspends id)
    (other_ne : other ≠ id) {stream : Stream} (found : session.stream? other = some stream) :
    ¬stream.IsSuspended :=
  fun suspended => other_ne (exclusive.unique id other suspends ⟨stream, found, suspended⟩)

theorem Exclusive.not_suspends (exclusive : session.Exclusive)
    (idle : session.engine.isRunning = false) (id : Text) : ¬session.Suspends id := by
  intro suspends
  have running := exclusive.running id suspends
  simp [idle] at running

theorem Exclusive.close (exclusive : session.Exclusive) (id : Text) :
    (session.close id).Exclusive := by
  cases found : session.stream? id with
  | none => rwa [close_of_none found]
  | some stream =>
    rw [close_eq found]
    refine exclusive.store ?_ (by simp)
    intro other suspends apart
    have idle : ¬stream.IsSuspended := exclusive.apart suspends (Ne.symm apart) found
    rw [Engine.close_of_not_suspended idle]
    exact exclusive.running other suspends

theorem Exclusive.next (exclusive : session.Exclusive) (id : Text) :
    (session.next id).1.Exclusive := by
  cases found : session.stream? id with
  | none => rwa [next_of_none found]
  | some stream =>
    rw [next_eq found]
    refine exclusive.store ?_ ?_
    · intro other suspends apart
      have idle : ¬stream.IsSuspended := exclusive.apart suspends (Ne.symm apart) found
      rw [Engine.next_of_not_suspended (exclusive.running other suspends) idle]
      exact exclusive.running other suspends
    · intro rest left suspended
      refine ⟨Engine.isRunning_of_rest? left suspended, ?_⟩
      intro other suspends
      have busy := exclusive.running other suspends
      have suspended := Engine.isSuspended_of_rest? busy left
      exact exclusive.unique id other ⟨stream, found, suspended⟩ suspends

theorem Exclusive.perform (exclusive : session.Exclusive) (operation : Operation) :
    (session.perform operation).1.Exclusive := by
  cases operation with
  | configure maxSteps maxLoop | cancel => exact ⟨exclusive.running, exclusive.unique⟩
  | reset =>
    cases busy : session.engine.isRunning with
    | true => simpa [Session.perform, Engine.reset, busy] using exclusive
    | false =>
      simp only [Session.perform, Engine.reset, busy]
      constructor
      · intro id suspends
        exact absurd suspends (exclusive.not_suspends busy id)
      · exact exclusive.unique
  | run script speed cancels =>
    cases busy : session.engine.isRunning with
    | true => simpa [Session.perform, Engine.run_of_running busy] using exclusive
    | false =>
      constructor
      · intro id suspends
        exact absurd suspends (exclusive.not_suspends busy id)
      · exact exclusive.unique
  | openStream id script =>
    have closed := exclusive.close id
    refine closed.store (fun other suspends _ => closed.running other suspends) ?_
    rintro stream ⟨rfl⟩ suspended
    simp at suspended
  | next id => exact exclusive.next id
  | close id => exact exclusive.close id

/-- In a session without streams none is suspended. -/
theorem exclusive_nil (engine : Engine) : Exclusive ⟨engine, []⟩ := by
  have none_suspended : ∀ id, ¬Suspends ⟨engine, []⟩ id := by
    rintro id ⟨stream, found, _⟩
    simp [stream?] at found
  constructor
  · intro id suspends
    exact absurd suspends (none_suspended id)
  · intro id other suspends
    exact absurd suspends (none_suspended id)

/-- After every history at most one stream is suspended, and the engine is running then. -/
theorem exclusive_after (history : List Operation) : (new.after history).Exclusive :=
  after_induction (fun _ operation exclusive => exclusive.perform operation) history new
    (exclusive_nil .new)

end Session

end StepScript
