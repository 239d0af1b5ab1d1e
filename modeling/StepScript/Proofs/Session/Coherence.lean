import StepScript.Proofs.Run.Placement
import StepScript.Proofs.Session.Isolation

/-!
# Coherent engines

Whatever callers do, the phase of an engine tells what is left of its last run: nothing, its
variables and its log, or also the place at which it was left (`Session.engine_coherent`).  The
cursor lies in the script that was begun last, which the engine does not keep; `Session.script`
reads it off the history.
-/

namespace StepScript

namespace Engine

/-- How the phase of an engine, its frame, its cursor and its highlight hang together, given the
script that was begun last. -/
structure Coherent (script : Option Text) (engine : Engine) : Prop where
  idle_empty : engine.phase = .idle →
    engine.machine.environment = [] ∧ engine.machine.log = [] ∧ engine.machine.frame = none
  rest_clear : engine.phase = .idle ∨ engine.phase = .completed ∨ engine.phase = .failed →
    engine.machine.frame = none ∧ engine.machine.cursor = none ∧ engine.machine.highlight = none
  frame_open : ∀ frame, engine.machine.frame = some frame →
    (engine.phase = .running ∨ engine.phase = .cancelled) ∧
      (Environment.find? frame.counter engine.machine.environment).isSome ∧
      ∃ index, engine.machine.cursor = some index ∧ frame.header ≤ index ∧ index ≤ frame.endIndex
  highlight_framed : engine.machine.highlight.isSome → engine.machine.frame.isSome
  cursor_valid : ∀ index, engine.machine.cursor = some index →
    ∃ text, script = some text ∧ index < (Text.lines text).length

/-- The script that an engine begins when a stream is asked to go on. -/
def begun? (engine : Engine) : Stream → Option Text
  | .unstarted script _ => if engine.isRunning then none else some script
  | .suspended _ _ | .settled _ => none

end Engine

/-- A suspended stream finds the machine where its control point expects it, in the script that was
begun last. -/
def Stream.Stands (script : Option Text) (machine : Machine) : Stream → Prop
  | .suspended lines control =>
    ∃ text, script = some text ∧ lines = Text.lines text ∧ control.Stands lines machine
  | .unstarted _ _ | .settled _ => True

namespace Engine

/-- An engine that has answered is coherent, and what is left of the stream finds it where it
stands. -/
structure Answers (script : Option Text) (answer : Engine × Reply) : Prop where
  engine : answer.1.Coherent script
  rest : ∀ rest, answer.2.rest? = some rest → rest.Stands script answer.1.machine

variable {engine other : Engine} {script : Option Text} {stream : Stream}

theorem Coherent.of_eq (coherent : engine.Coherent script) (phase : other.phase = engine.phase)
    (machine : other.machine = engine.machine) : other.Coherent script := by
  constructor
  · rw [phase, machine]
    exact coherent.idle_empty
  · rw [phase, machine]
    exact coherent.rest_clear
  · rw [phase, machine]
    exact coherent.frame_open
  · rw [machine]
    exact coherent.highlight_framed
  · rw [machine]
    exact coherent.cursor_valid

theorem coherent_withLimits (limits : Limits) : (withLimits limits).Coherent script := by
  constructor <;> simp [withLimits, new, Machine.initial, Machine.log]

/-- A run that has ended by itself leaves no place at which it was left. -/
theorem Coherent.of_ended (phase : engine.phase = .completed ∨ engine.phase = .failed)
    (frame : engine.machine.frame = none) (cursor : engine.machine.cursor = none)
    (highlight : engine.machine.highlight = none) : engine.Coherent script := by
  constructor
  · intro idle
    rcases phase with phase | phase <;> simp [phase] at idle
  · intro _
    exact ⟨frame, cursor, highlight⟩
  · simp [frame]
  · simp [highlight]
  · simp [cursor]

/-- A run that has begun and not ended by itself leaves a machine that is placed. -/
theorem Coherent.of_placed {text : Text}
    (phase : engine.phase = .running ∨ engine.phase = .cancelled)
    (placed : engine.machine.Placed (Text.lines text).length) : engine.Coherent (some text) := by
  constructor
  · intro idle
    rcases phase with phase | phase <;> simp [phase] at idle
  · intro ended
    rcases phase with phase | phase <;> simp [phase] at ended
  · intro frame found
    have inside := placed.inside found
    exact ⟨phase, inside.counter, inside.cursor⟩
  · exact placed.highlight_framed
  · intro index found
    exact ⟨text, rfl, placed.cursor_lt found⟩

/-- Cancelling a run leaves the place at which it was left. -/
theorem Coherent.cancelled (coherent : engine.Coherent script) :
    Coherent script { engine with phase := .cancelled } := by
  constructor
  · simp
  · simp
  · intro frame found
    rcases coherent.frame_open frame found with ⟨_, opened⟩
    exact ⟨.inr rfl, opened⟩
  · exact coherent.highlight_framed
  · exact coherent.cursor_valid

theorem Coherent.close (coherent : engine.Coherent script) (stream : Stream) :
    (engine.close stream).Coherent script := by
  cases stream with
  | suspended lines control => exact coherent.cancelled
  | unstarted script speed => exact coherent
  | settled outcome => exact coherent

theorem begun?_of_running (busy : engine.isRunning = true) (stream : Stream) :
    engine.begun? stream = none := by
  cases stream with
  | unstarted script speed => simp [begun?, busy]
  | suspended lines control => rfl
  | settled outcome => rfl

/-- What is left of a stream has begun already. -/
theorem begun?_of_shows {rest : Stream} {shown : Snapshot} (shows : other.Shows rest shown) :
    engine.begun? rest = none := by
  rcases shows.stage with ⟨_, _, lines, control, rfl⟩ | ⟨_, _, outcome, rfl, _⟩
  · rfl
  · rfl

/-- A running engine that goes on from where it stands answers coherently. -/
theorem advance_answers {text : Text} {control : Control} (running : engine.phase = .running)
    (stands : control.Stands (Text.lines text) engine.machine) :
    Answers (some text) (engine.advance (Text.lines text) control) := by
  have stops : (nextStop engine.limits engine.machine control).Stands (Text.lines text) :=
    nextStop_stands stands
  unfold advance
  split
  next event machine reached stop =>
    rw [stop] at stops
    rcases stops with ⟨onwards, placed⟩
    constructor
    · exact .of_placed (.inl rfl) (placed.counted _)
    · rintro rest ⟨rfl⟩
      exact ⟨text, rfl, rfl, onwards.counted _⟩
  next machine stop =>
    rw [stop] at stops
    constructor
    · exact .of_ended (.inl rfl) stops.frame_eq rfl rfl
    · rintro rest ⟨rfl⟩
      trivial
  next machine cause stop =>
    constructor
    · exact .of_ended (.inr rfl) rfl rfl rfl
    · rintro rest ⟨rfl⟩
      trivial
  next machine cause stop =>
    rw [stop] at stops
    constructor
    · exact .of_placed (.inl running) stops
    · simp [Reply.rest?]

/-- A coherent engine answers coherently, if the stream finds it where it stands and is suspended
only while the engine is running. -/
theorem Coherent.next (coherent : engine.Coherent script)
    (stands : stream.Stands script engine.machine)
    (running : stream.IsSuspended → engine.isRunning = true) :
    Answers ((engine.begun? stream).or script) (engine.next stream) := by
  cases stream with
  | settled outcome => exact ⟨coherent, by simp [next, Reply.rest?]⟩
  | suspended lines control =>
    rcases stands with ⟨text, begun, rfl, stands⟩
    have busy : engine.phase = .running := by
      simpa [isRunning] using running ⟨_, control, rfl⟩
    simp only [Engine.next]
    split
    · exact ⟨coherent.cancelled, by simp [Reply.rest?]⟩
    · rw [begun]
      exact advance_answers busy stands
  | unstarted text speed =>
    cases busy : engine.isRunning with
    | true =>
      rw [begun?_of_running busy, next_of_running busy]
      exact ⟨coherent, by simp [Reply.rest?]⟩
    | false =>
      have begins : engine.begun? (.unstarted text speed) = some text := by simp [begun?, busy]
      rw [begins]
      cases accepted : Dialect.violation? text with
      | some rule =>
        rw [next_of_violation busy accepted]
        exact ⟨.of_ended (.inr rfl) rfl rfl rfl, by simp [Reply.rest?]⟩
      | none =>
        cases paced : pacing speed with
        | error cause =>
          rw [next_of_unpaced busy accepted paced]
          have placed : Machine.initial.Placed (Text.lines text).length :=
            .inl ⟨rfl, rfl, by simp [Machine.initial]⟩
          exact ⟨.of_placed (.inl rfl) placed, by simp [Reply.rest?]⟩
        | ok delay =>
          rw [next_of_accepted busy accepted paced]
          exact advance_answers rfl (Control.stands_started _)

theorem Coherent.drive {cancels : Snapshot → Bool} {seen : List Snapshot}
    (coherent : engine.Coherent script) (stands : stream.Stands script engine.machine)
    (running : stream.IsSuspended → engine.isRunning = true) :
    (drive cancels engine stream seen).1.Coherent ((engine.begun? stream).or script) := by
  fun_induction Engine.drive cancels engine stream seen generalizing script with
  | case1 engine stream seen suspended shown rest answer ih =>
    have answers := coherent.next stands running
    rw [answer] at answers
    have shows := next_shows answer
    have observed : (suspended.observe cancels shown).Coherent ((engine.begun? stream).or script) :=
      answers.engine.of_eq (observe_phase ..) (observe_machine ..)
    have busy : rest.IsSuspended → (suspended.observe cancels shown).isRunning = true := by
      intro left
      rw [isRunning, observe_phase]
      exact shows.isRunning left
    have left : rest.Stands ((engine.begun? stream).or script)
        (suspended.observe cancels shown).machine := by
      rw [observe_machine]
      exact answers.rest rest rfl
    have driven := ih observed left busy
    rwa [begun?_of_shows shows] at driven
  | case2 engine stream seen ended outcome answer =>
    have answers := coherent.next stands running
    rw [answer] at answers
    exact answers.engine
  | case3 engine stream seen stopped cause answer =>
    have answers := coherent.next stands running
    rw [answer] at answers
    exact answers.engine

theorem Coherent.run (coherent : engine.Coherent script) (text : Text) (speed : Option Value)
    (cancels : Snapshot → Bool) : (engine.run text speed cancels).1.Coherent
      ((engine.begun? (.unstarted text speed)).or script) := by
  apply coherent.drive
  · trivial
  · simp

end Engine

/-- The script that an operation begins in a session. -/
def Operation.begun? (session : Session) : Operation → Option Text
  | .run script speed _ => session.engine.begun? (.unstarted script speed)
  | .next id => (session.stream? id).bind session.engine.begun?
  | .configure _ _ | .cancel | .reset | .openStream _ _ | .close _ => none

namespace Session

/-- The script that was begun last in a history, or before it. -/
def script (before : Option Text) (session : Session) : List Operation → Option Text
  | [] => before
  | operation :: later =>
    (session.perform operation).1.script ((operation.begun? session).or before) later

/-- What every operation keeps: the engine is coherent, and a stream that is suspended finds it
where it stands. -/
structure Coherent (script : Option Text) (session : Session) : Prop extends
    session.Exclusive where
  engine : session.engine.Coherent script
  stands : ∀ id stream, session.stream? id = some stream →
    stream.Stands script session.engine.machine

variable {session : Session} {script : Option Text} {operation : Operation}

theorem begun?_of_running (busy : session.engine.isRunning = true) (operation : Operation) :
    operation.begun? session = none := by
  cases operation with
  | run script speed cancels => exact Engine.begun?_of_running busy (.unstarted script speed)
  | next id =>
    cases found : session.stream? id with
    | none => simp [Operation.begun?, found]
    | some stream => simp [Operation.begun?, found, Engine.begun?_of_running busy]
  | _ => rfl

theorem Coherent.next_answers (coherent : session.Coherent script) {id : Text} {stream : Stream}
    (found : session.stream? id = some stream) :
    Engine.Answers (((Operation.next id).begun? session).or script)
      (session.engine.next stream) := by
  have begun : (Operation.next id).begun? session = session.engine.begun? stream := by
    simp [Operation.begun?, found]
  rw [begun]
  apply coherent.engine.next (coherent.stands id stream found)
  intro suspended
  exact coherent.running id ⟨stream, found, suspended⟩

theorem Coherent.close (coherent : session.Coherent script) (id : Text) :
    (session.close id).engine.Coherent script := by
  cases found : session.stream? id with
  | none =>
    rw [close_of_none found]
    exact coherent.engine
  | some stream =>
    rw [close_eq found]
    exact coherent.engine.close stream

theorem Coherent.engine_perform (coherent : session.Coherent script) (operation : Operation) :
    (session.perform operation).1.engine.Coherent ((operation.begun? session).or script) := by
  cases operation with
  | configure maxSteps maxLoop | cancel => exact coherent.engine.of_eq rfl rfl
  | reset =>
    cases busy : session.engine.isRunning with
    | true =>
      simp only [perform, Engine.reset, busy]
      exact coherent.engine
    | false =>
      simp only [perform, Engine.reset, busy]
      exact Engine.coherent_withLimits _
  | run script speed cancels => exact coherent.engine.run script speed cancels
  | openStream id script => exact coherent.close id
  | next id =>
    cases found : session.stream? id with
    | none =>
      simp only [perform, next_of_none found, Operation.begun?, found]
      exact coherent.engine
    | some stream =>
      rw [perform_next_eq found]
      exact (coherent.next_answers found).engine
  | close id => exact coherent.close id

/-- An operation leaves every suspended stream to find the engine where it stands. -/
theorem Coherent.stands_perform (coherent : session.Coherent script) {id : Text} {stream : Stream}
    (found : (session.perform operation).1.stream? id = some stream) :
    stream.Stands ((operation.begun? session).or script)
      (session.perform operation).1.engine.machine := by
  cases concerns : operation.concerns id with
  | false =>
    -- The stream is where it was, and if it is suspended, so is the engine.
    rw [stream?_perform concerns] at found
    cases stream with
    | unstarted text speed | settled outcome => trivial
    | suspended lines control =>
      have suspends : session.Suspends id := ⟨_, found, lines, control, rfl⟩
      rw [begun?_of_running (coherent.running id suspends),
        Session.engine_perform coherent.toExclusive suspends concerns]
      exact coherent.stands id _ found
  | true =>
    cases operation with
    | reset | run script speed cancels => simp [Operation.concerns] at concerns
    | configure maxSteps maxLoop | cancel => exact coherent.stands id stream found
    | openStream other text =>
      obtain rfl : other = id := by simpa [Operation.concerns] using concerns
      obtain rfl : stream = .unstarted text none := by
        simpa [perform, stream?_store_self, eq_comm] using found
      trivial
    | next other =>
      obtain rfl : other = id := by simpa [Operation.concerns] using concerns
      cases before : session.stream? other with
      | none => simp [perform, next_of_none before, before] at found
      | some stream =>
        rw [perform_next_eq before] at found ⊢
        rw [stream?_store_self] at found
        exact (coherent.next_answers before).rest _ found
    | close other =>
      obtain rfl : other = id := by simpa [Operation.concerns] using concerns
      cases before : session.stream? other with
      | none => simp [perform, close_of_none before, before] at found
      | some stream => simp [perform, close_eq before] at found

theorem Coherent.perform (coherent : session.Coherent script) (operation : Operation) :
    (session.perform operation).1.Coherent ((operation.begun? session).or script) :=
  ⟨coherent.toExclusive.perform operation, coherent.engine_perform operation,
    fun _ _ found => coherent.stands_perform found⟩

theorem Coherent.after (coherent : session.Coherent script) (history : List Operation) :
    (session.after history).Coherent (session.script script history) := by
  induction history generalizing session script with
  | nil => exact coherent
  | cons operation later ih => exact ih (coherent.perform operation)

end Session

end StepScript
