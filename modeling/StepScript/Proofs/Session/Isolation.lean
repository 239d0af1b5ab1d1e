import StepScript.Proofs.Run.Operation
import StepScript.Proofs.Session.History

/-!
# Isolation of streams

Streams that share an engine do not disturb each other.  While a stream is suspended, everything
that callers ask of the engine or of other streams is refused or changes nothing, but for
cancellations and new limits.  Two histories that agree on these and on the stream itself therefore
get the same replies from it (`Session.replies_eq`).  A run that begins on an engine that is not
running begins as on a new one.
-/

namespace StepScript

namespace Operation

/-- Operations that can matter to a stream once it has begun: those on the stream itself,
cancellations and new limits. -/
def concerns (id : Text) : Operation → Bool
  | .configure _ _ | .cancel => true
  | .reset | .run _ _ _ => false
  | .openStream other _ | .next other | .close other => decide (other = id)

/-- Whether an operation opens a new stream under an identifier. -/
def opens (id : Text) : Operation → Bool
  | .openStream other _ => decide (other = id)
  | _ => false

/-- What the stream under an identifier replies, if the operation asks it to go on. -/
def reply? (id : Text) : Operation → Answer → Option (Option Reply)
  | .next other, .replied reply => if other = id then some reply else none
  | _, _ => none

variable {operation : Operation} {id : Text}

theorem concerns_of_opens (opened : operation.opens id = true) : operation.concerns id = true := by
  cases operation with
  | openStream other script => exact opened
  | _ => simp [opens] at opened

theorem reply?_of_unconcerned (unconcerned : operation.concerns id = false) (answer : Answer) :
    operation.reply? id answer = none := by
  cases operation with
  | next other =>
    have apart : other ≠ id := by simpa [concerns] using unconcerned
    cases answer <;> simp [reply?, apart]
  | _ => cases answer <;> rfl

end Operation

namespace Session

/-- What the stream under an identifier replies during a history, in order. -/
def replies (id : Text) (session : Session) : List Operation → List (Option Reply)
  | [] => []
  | operation :: later =>
    (operation.reply? id (session.perform operation).2).toList ++
      (session.perform operation).1.replies id later

/-! ## Operations that do not concern a stream -/

section Unconcerned

variable {session : Session} {id other : Text} {operation : Operation}

theorem stream?_close_of_ne (apart : id ≠ other) :
    (session.close other).stream? id = session.stream? id := by
  cases found : session.stream? other with
  | none => rw [close_of_none found]
  | some stream =>
    rw [close_eq found, stream?_store_of_ne apart]
    rfl

theorem stream?_next_of_ne (apart : id ≠ other) :
    (session.next other).1.stream? id = session.stream? id := by
  cases found : session.stream? other with
  | none => rw [next_of_none found]
  | some stream =>
    rw [next_eq found, stream?_store_of_ne apart]
    rfl

/-- A stream stays where it is under operations that do not concern it. -/
theorem stream?_perform (unconcerned : operation.concerns id = false) :
    (session.perform operation).1.stream? id = session.stream? id := by
  cases operation with
  | configure maxSteps maxLoop | cancel => simp [Operation.concerns] at unconcerned
  | reset =>
    cases busy : session.engine.isRunning <;> simp only [perform, Engine.reset, busy] <;> rfl
  | run script speed cancels => rfl
  | openStream other script =>
    have apart : id ≠ other := by simpa [Operation.concerns, eq_comm] using unconcerned
    exact (stream?_store_of_ne apart).trans (stream?_close_of_ne apart)
  | next other =>
    have apart : id ≠ other := by simpa [Operation.concerns, eq_comm] using unconcerned
    exact stream?_next_of_ne apart
  | close other =>
    have apart : id ≠ other := by simpa [Operation.concerns, eq_comm] using unconcerned
    exact stream?_close_of_ne apart

/-- While a stream is suspended, giving up another one leaves the engine as it is. -/
theorem engine_close_of_ne (exclusive : session.Exclusive) (suspends : session.Suspends id)
    (apart : other ≠ id) : (session.close other).engine = session.engine := by
  cases found : session.stream? other with
  | none => rw [close_of_none found]
  | some stream =>
    rw [close_eq found]
    exact Engine.close_of_not_suspended (exclusive.apart suspends apart found)

/-- While a stream is suspended, asking another one leaves the engine as it is. -/
theorem engine_next_of_ne (exclusive : session.Exclusive) (suspends : session.Suspends id)
    (apart : other ≠ id) : (session.next other).1.engine = session.engine := by
  cases found : session.stream? other with
  | none => rw [next_of_none found]
  | some stream =>
    rw [next_eq found]
    exact Engine.next_of_not_suspended (exclusive.running id suspends)
      (exclusive.apart suspends apart found)

theorem perform_run_of_suspends (exclusive : session.Exclusive) (suspends : session.Suspends id)
    (script : Text) (speed : Option Value) (cancels : Snapshot → Bool) :
    session.perform (.run script speed cancels) =
      (session, .ran (.error (.refused .alreadyRunning))) := by
  simp [perform, Engine.run_of_running (exclusive.running id suspends)]

theorem perform_reset_of_suspends (exclusive : session.Exclusive)
    (suspends : session.Suspends id) :
    session.perform .reset = (session, .refused .resetWhileRunning) := by
  simp [perform, Engine.reset, exclusive.running id suspends]

/-- The engine stays as it is under operations that do not concern the suspended stream. -/
theorem engine_perform (exclusive : session.Exclusive) (suspends : session.Suspends id)
    (unconcerned : operation.concerns id = false) :
    (session.perform operation).1.engine = session.engine := by
  cases operation with
  | configure maxSteps maxLoop | cancel => simp [Operation.concerns] at unconcerned
  | reset => rw [perform_reset_of_suspends exclusive suspends]
  | run script speed cancels => rw [perform_run_of_suspends exclusive suspends]
  | openStream other script =>
    have apart : other ≠ id := by simpa [Operation.concerns] using unconcerned
    exact engine_close_of_ne exclusive suspends apart
  | next other =>
    have apart : other ≠ id := by simpa [Operation.concerns] using unconcerned
    exact engine_next_of_ne exclusive suspends apart
  | close other =>
    have apart : other ≠ id := by simpa [Operation.concerns] using unconcerned
    exact engine_close_of_ne exclusive suspends apart

end Unconcerned

/-! ## Sessions that a stream cannot tell apart -/

/-- Two sessions look alike to a stream that has begun: it stands at the same place in both, and as
long as it is suspended it finds the same engine. -/
structure Alike (id : Text) (session other : Session) : Prop where
  stream : other.stream? id = session.stream? id
  engine : session.Suspends id → other.engine = session.engine
  begun : ∀ script speed, session.stream? id ≠ some (.unstarted script speed)

section Alike

variable {session other : Session} {id : Text} {operation : Operation}

theorem Alike.refl (begun : ∀ script speed, session.stream? id ≠ some (.unstarted script speed)) :
    Alike id session session :=
  ⟨rfl, fun _ => rfl, begun⟩

/-- What a stream has left behind a reply has begun, and finds the same engine. -/
theorem Alike.of_next (engine : Engine) (stream : Stream)
    (streams others : List (Text × Option Stream)) :
    Alike id
      ⟨(engine.next stream).1, store id (engine.next stream).2.rest? streams⟩
      ⟨(engine.next stream).1, store id (engine.next stream).2.rest? others⟩ := by
  constructor
  · simp
  · intro _
    rfl
  · intro script speed found
    rw [stream?_store_self] at found
    rcases Engine.shows_of_rest? found with ⟨shown, _, shows⟩
    rcases shows.stage with ⟨_, _, lines, control, impossible⟩ | ⟨_, _, outcome, impossible, _⟩
    · simp at impossible
    · simp at impossible

theorem Alike.of_ended (ended : session.stream? id = none) (endedToo : other.stream? id = none) :
    Alike id session other := by
  constructor
  · rw [ended, endedToo]
  · rintro ⟨stream, found, _⟩
    simp [ended] at found
  · simp [ended]

/-- An operation that concerns a stream gets the same reply in sessions that look alike to it, and
they go on looking alike. -/
theorem Alike.perform (alike : Alike id session other) (concerns : operation.concerns id = true)
    (unopened : operation.opens id = false) :
    operation.reply? id (other.perform operation).2 =
        operation.reply? id (session.perform operation).2 ∧
      Alike id (session.perform operation).1 (other.perform operation).1 := by
  cases operation with
  | reset | run script speed cancels => simp [Operation.concerns] at concerns
  | configure maxSteps maxLoop =>
    have engine := fun suspends =>
      congrArg (Engine.configure maxSteps maxLoop) (alike.engine suspends)
    exact ⟨rfl, alike.stream, engine, alike.begun⟩
  | cancel =>
    have engine := fun suspends => congrArg Engine.cancel (alike.engine suspends)
    exact ⟨rfl, alike.stream, engine, alike.begun⟩
  | openStream name script =>
    have same : name = id := by simpa [Operation.concerns] using concerns
    simp [Operation.opens, same] at unopened
  | next name =>
    obtain rfl : name = id := by simpa [Operation.concerns] using concerns
    simp only [Session.perform]
    cases found : session.stream? name with
    | none =>
      rw [next_of_none found, next_of_none (alike.stream.trans found)]
      exact ⟨rfl, alike⟩
    | some stream =>
      rw [next_eq found, next_eq (alike.stream.trans found)]
      cases stream with
      | unstarted script speed => exact absurd found (alike.begun script speed)
      | suspended lines control =>
        rw [alike.engine ⟨_, found, lines, control, rfl⟩]
        exact ⟨rfl, Alike.of_next _ _ _ _⟩
      | settled outcome =>
        exact ⟨rfl, Alike.of_ended stream?_store_self stream?_store_self⟩
  | close name =>
    obtain rfl : name = id := by simpa [Operation.concerns] using concerns
    refine ⟨rfl, ?_⟩
    simp only [Session.perform]
    cases found : session.stream? name with
    | none =>
      rw [close_of_none found, close_of_none (alike.stream.trans found)]
      exact alike
    | some stream =>
      rw [close_eq found, close_eq (alike.stream.trans found)]
      exact Alike.of_ended stream?_store_self stream?_store_self

/-- An operation that does not concern a stream may be left out. -/
theorem Alike.skip (alike : Alike id session other) (exclusive : session.Exclusive)
    (unconcerned : operation.concerns id = false) :
    Alike id (session.perform operation).1 other := by
  have stays : (session.perform operation).1.stream? id = session.stream? id :=
    stream?_perform unconcerned
  constructor
  · rw [stays]
    exact alike.stream
  · rintro ⟨stream, found, suspended⟩
    have suspends : session.Suspends id := ⟨stream, stays ▸ found, suspended⟩
    rw [engine_perform exclusive suspends unconcerned]
    exact alike.engine suspends
  · rw [stays]
    exact alike.begun

/-- A stream replies as if only the operations that concern it had been performed. -/
theorem Alike.replies_filter {operations : List Operation} (alike : Alike id session other)
    (exclusive : session.Exclusive)
    (unopened : ∀ operation ∈ operations, operation.opens id = false) :
    session.replies id operations =
      other.replies id (operations.filter (Operation.concerns id)) := by
  induction operations generalizing session other with
  | nil => rfl
  | cons operation later ih =>
    have unopenedLater : ∀ operation ∈ later, operation.opens id = false :=
      fun operation member => unopened operation (List.mem_cons_of_mem _ member)
    cases concerns : operation.concerns id with
    | true =>
      rcases alike.perform concerns (unopened operation List.mem_cons_self) with ⟨reply, next⟩
      rw [List.filter_cons_of_pos concerns, replies, replies, reply,
        ih next (exclusive.perform operation) unopenedLater]
    | false =>
      rw [List.filter_cons_of_neg (by simp [concerns]), replies,
        Operation.reply?_of_unconcerned concerns]
      exact ih (alike.skip exclusive concerns) (exclusive.perform operation) unopenedLater

/-- Two histories that agree on what concerns a stream get the same replies from it. -/
theorem replies_eq {operations others : List Operation} (alike : Alike id session other)
    (exclusive : session.Exclusive) (exclusiveToo : other.Exclusive)
    (agree : operations.filter (Operation.concerns id) = others.filter (Operation.concerns id))
    (unopened : ∀ operation ∈ operations, operation.opens id = false) :
    session.replies id operations = other.replies id others := by
  have unopenedToo : ∀ operation ∈ others, operation.opens id = false := by
    intro operation member
    apply Bool.eq_false_of_not_eq_true
    intro opened
    have kept := List.mem_filter.mpr ⟨member, Operation.concerns_of_opens opened⟩
    rw [← agree] at kept
    simp [unopened operation (List.mem_filter.mp kept).1] at opened
  have begun : ∀ script speed, other.stream? id ≠ some (.unstarted script speed) := by
    rw [alike.stream]
    exact alike.begun
  calc session.replies id operations
      = other.replies id (operations.filter (Operation.concerns id)) :=
        alike.replies_filter exclusive unopened
    _ = other.replies id (others.filter (Operation.concerns id)) := by rw [agree]
    _ = other.replies id others :=
        ((Alike.refl begun).replies_filter exclusiveToo unopenedToo).symm

end Alike

end Session

/-! ## Runs that begin afresh -/

namespace Engine

variable {engine other : Engine} {script : Text} {speed : Option Value}

/-- A stream that begins on an engine that is not running finds nothing of what was before. -/
theorem next_of_idle (idle : engine.isRunning = false) :
    engine.next (.unstarted script speed) =
      (withLimits engine.limits).next (.unstarted script speed) := by
  have idleToo : (withLimits engine.limits).isRunning = false := rfl
  simp only [next, start, idle, idleToo]
  rfl

theorem drive_congr {cancels : Snapshot → Bool} {stream rest : Stream} {seen : List Snapshot}
    (same : engine.next stream = other.next rest) :
    drive cancels engine stream seen = drive cancels other rest seen := by
  cases answer : other.next rest with
  | mk suspended reply =>
    have answerToo := same.trans answer
    cases reply with
    | snapshot shown later => rw [drive_of_snapshot answer, drive_of_snapshot answerToo]
    | outcome reached => rw [drive_of_outcome answer, drive_of_outcome answerToo]
    | interrupted cause => rw [drive_of_interruption answer, drive_of_interruption answerToo]

theorem run_of_idle (idle : engine.isRunning = false) (cancels : Snapshot → Bool) :
    engine.run script speed cancels = (withLimits engine.limits).run script speed cancels :=
  drive_congr (next_of_idle idle)

end Engine

namespace Session

/-- A session with a new engine and a single stream that has yet to begin. -/
def single (limits : Limits) (id script : Text) (speed : Option Value) : Session :=
  ⟨.withLimits limits, store id (some (.unstarted script speed)) []⟩

/-- What holds of a session while the stream under an identifier is suspended. -/
structure Shields (session : Session) (id : Text) : Prop where
  run_refused : ∀ script speed cancels, session.perform (.run script speed cancels) =
    (session, .ran (.error (.refused .alreadyRunning)))
  reset_refused : session.perform .reset = (session, .refused .resetWhileRunning)
  start_refused : ∀ other script speed, session.stream? other = some (.unstarted script speed) →
    (session.perform (.next other)).2 =
      .replied (some (.interrupted (.refused .alreadyRunning)))
  engine_kept : ∀ operation : Operation, operation.concerns id = false →
    (session.perform operation).1.engine = session.engine
  replies_kept : ∀ operations others : List Operation,
    operations.filter (Operation.concerns id) = others.filter (Operation.concerns id) →
    (∀ operation ∈ operations, operation.opens id = false) →
    session.replies id operations = session.replies id others

/-- What holds of a session while its engine is not running: runs and streams begin on it as on a
new engine. -/
structure StartsAfresh (session : Session) : Prop where
  run_fresh : ∀ script speed cancels, session.engine.run script speed cancels =
    (Engine.withLimits session.engine.limits).run script speed cancels
  start_fresh : ∀ id script speed, session.stream? id = some (.unstarted script speed) →
    (session.perform (.next id)).1.engine =
      ((single session.engine.limits id script speed).perform (.next id)).1.engine
  replies_fresh : ∀ id script speed, session.stream? id = some (.unstarted script speed) →
    ∀ operations others : List Operation,
      operations.filter (Operation.concerns id) = others.filter (Operation.concerns id) →
      (∀ operation ∈ operations, operation.opens id = false) →
      session.replies id (.next id :: operations) =
        (single session.engine.limits id script speed).replies id (.next id :: others)

variable {session : Session} {id : Text}

theorem Exclusive.shields (exclusive : session.Exclusive) (suspends : session.Suspends id) :
    session.Shields id := by
  constructor
  · exact perform_run_of_suspends exclusive suspends
  · exact perform_reset_of_suspends exclusive suspends
  · intro other script speed found
    rw [perform_next_eq found, Engine.next, Engine.start, if_pos (exclusive.running id suspends)]
  · intro operation unconcerned
    exact engine_perform exclusive suspends unconcerned
  · intro operations others agree unopened
    have begun : ∀ script speed, session.stream? id ≠ some (.unstarted script speed) := by
      intro script speed found
      rcases suspends with ⟨stream, foundToo, lines, control, rfl⟩
      simp [found] at foundToo
    exact replies_eq (.refl begun) exclusive exclusive agree unopened

theorem single_exclusive (limits : Limits) (id script : Text) (speed : Option Value) :
    (single limits id script speed).Exclusive := by
  have empty := exclusive_nil (.withLimits limits)
  refine empty.store (fun other suspends _ => empty.running other suspends) ?_
  rintro stream ⟨rfl⟩ suspended
  simp at suspended

/-- A stream that begins on an engine that is not running begins as in a session of its own. -/
theorem perform_next_of_idle {script : Text} {speed : Option Value}
    (idle : session.engine.isRunning = false)
    (found : session.stream? id = some (.unstarted script speed)) :
    ∃ engine reply,
      session.perform (.next id) =
          (⟨engine, store id (Reply.rest? reply) session.streams⟩, .replied (some reply)) ∧
      (single session.engine.limits id script speed).perform (.next id) =
        (⟨engine, store id (Reply.rest? reply)
            (single session.engine.limits id script speed).streams⟩, .replied (some reply)) ∧
      Alike id (session.perform (.next id)).1
        ((single session.engine.limits id script speed).perform (.next id)).1 := by
  have foundToo : (single session.engine.limits id script speed).stream? id =
      some (.unstarted script speed) := stream?_store_self
  have begins := perform_next_eq found
  have beginsToo := perform_next_eq foundToo
  rw [Engine.next_of_idle idle] at begins
  refine ⟨_, _, begins, beginsToo, ?_⟩
  rw [begins, beginsToo]
  exact Alike.of_next _ _ _ _

theorem Exclusive.startsAfresh (exclusive : session.Exclusive)
    (idle : session.engine.isRunning = false) : session.StartsAfresh := by
  constructor
  · intro script speed cancels
    exact Engine.run_of_idle idle cancels
  · intro id script speed found
    rcases perform_next_of_idle idle found with ⟨engine, reply, begins, beginsToo, _⟩
    rw [begins, beginsToo]
  · intro id script speed found operations others agree unopened
    rcases perform_next_of_idle idle found with ⟨engine, reply, begins, beginsToo, alike⟩
    have apart := single_exclusive session.engine.limits id script speed
    have later := replies_eq alike (exclusive.perform _) (apart.perform _) agree unopened
    rw [replies, replies, later, begins, beginsToo]

/-- A stream that is opened and asked to go on once is suspended at its first change. -/
theorem suspends_of_change {script : Text} {event : Event} {changed : Machine} {reached : Control}
    (id : Text) (accepted : Dialect.violation? script = none)
    (goes : step .standard .started (.top (numberLines 0 (Text.lines script))) =
      .go (some event) changed reached) :
    (new.after [.openStream id script, .next id]).Suspends id := by
  have found : (new.perform (.openStream id script)).1.stream? id =
      some (.unstarted script none) := stream?_store_self
  have begun := perform_next_eq found
  let running : Engine := { Engine.new with phase := .running, machine := .started }
  have next : Engine.new.next (.unstarted script none) =
      running.advance (Text.lines script) (.top (numberLines 0 (Text.lines script))) :=
    Engine.next_of_accepted rfl accepted Engine.pacing_none
  have goesOn : step running.limits running.machine (.top (numberLines 0 (Text.lines script))) =
      .go (some event) changed reached := goes
  have left : (Engine.new.next (.unstarted script none)).2.rest? =
      some (.suspended (Text.lines script) reached) := by
    rw [next, Engine.advance_of_change goesOn]
    rfl
  refine ⟨.suspended (Text.lines script) reached, ?_, _, _, rfl⟩
  rw [after, after, after, begun]
  exact stream?_store_self.trans left

/-- Streams that share an engine do not disturb each other: after every history a suspended stream
is shielded from everything that does not concern it, and an engine that is not running begins
afresh. -/
theorem isolation (history : List Operation) :
    (∀ id, (new.after history).Suspends id → (new.after history).Shields id) ∧
      ((new.after history).engine.isRunning = false → (new.after history).StartsAfresh) := by
  have exclusive := exclusive_after history
  constructor
  · intro id suspends
    exact exclusive.shields suspends
  · intro idle
    exact exclusive.startsAfresh idle

/-- A stream of a declaration is suspended behind its first snapshot and shielded there, and a new
session starts afresh. -/
theorem isolation_of_declaration :
    (new.after [.openStream ['x'] "let a = []".toList, .next ['x']]).Suspends ['x'] ∧
      (new.after [.openStream ['x'] "let a = []".toList, .next ['x']]).Shields ['x'] ∧
      (new.after []).engine.isRunning = false ∧ (new.after []).StartsAfresh := by
  let declared := (Machine.started.visit false ⟨0, "let a = []".toList⟩).written ['a'] (.array [])
  have declares : step .standard .started (.top (numberLines 0 (Text.lines "let a = []".toList))) =
      .go (some .declare) declared (.top []) := by cbv
  have accepted : Dialect.violation? "let a = []".toList = none := by cbv
  have suspends := suspends_of_change ['x'] accepted declares
  exact ⟨suspends, (isolation _).1 _ suspends, rfl, (isolation []).2 rfl⟩

end Session

end StepScript
