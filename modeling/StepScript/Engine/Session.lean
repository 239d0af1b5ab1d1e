import StepScript.Engine.Run

/-!
# Sessions

Several callers may share an engine, each with streams of its own.  A session is an engine with the
streams that were opened on it, and a history of a session is a list of operations.
-/

namespace StepScript

/-- What callers can ask of an engine and its streams. -/
inductive Operation where
  | configure (maxSteps maxLoop : Option Int)
  | cancel
  | reset
  | run (script : Text) (speed : Option Value) (cancels : Snapshot → Bool)
  | openStream (id script : Text)
  | next (id : Text)
  | close (id : Text)

/-- What an operation answers.  A stream that had ended before replies nothing. -/
inductive Answer where
  | done
  | refused (cause : Refusal)
  | ran (result : Except Interruption RunResult)
  | replied (reply : Option Reply)

/-- An engine and the streams that were opened on it.  A stream that has ended is none. -/
structure Session where
  engine : Engine
  streams : List (Text × Option Stream)

namespace Session

def new : Session :=
  ⟨.new, []⟩

/-- Keeps what is left of a stream. -/
def store (id : Text) (stream : Option Stream) :
    List (Text × Option Stream) → List (Text × Option Stream)
  | [] => [(id, stream)]
  | (other, old) :: rest =>
    if other = id then (id, stream) :: rest else (other, old) :: store id stream rest

/-- The stream under an identifier, unless it has ended. -/
def stream? (id : Text) (session : Session) : Option Stream :=
  (session.streams.lookup id).join

/-- Gives up the stream under an identifier. -/
def close (id : Text) (session : Session) : Session :=
  match session.stream? id with
  | none => session
  | some stream => ⟨session.engine.close stream, store id none session.streams⟩

/-- Asks the stream under an identifier to go on. -/
def next (id : Text) (session : Session) : Session × Option Reply :=
  match session.stream? id with
  | none => (session, none)
  | some stream =>
    let (engine, reply) := session.engine.next stream
    let rest := match reply with
      | .snapshot _ rest => some rest
      | .outcome _ | .interrupted _ => none
    (⟨engine, store id rest session.streams⟩, some reply)

/-- Performs an operation.  A stream opened under an identifier that is in use replaces the other
one, which is given up. -/
def perform (session : Session) : Operation → Session × Answer
  | .configure maxSteps maxLoop =>
    ({ session with engine := session.engine.configure maxSteps maxLoop }, .done)
  | .cancel => ({ session with engine := session.engine.cancel }, .done)
  | .reset =>
    match session.engine.reset with
    | .ok engine => ({ session with engine }, .done)
    | .error cause => (session, .refused cause)
  | .run script speed cancels =>
    let (engine, result) := session.engine.run script speed cancels
    ({ session with engine }, .ran result)
  | .openStream id script =>
    let closed := session.close id
    (⟨closed.engine, store id (some (.unstarted script none)) closed.streams⟩, .done)
  | .next id =>
    let (session, reply) := session.next id
    (session, .replied reply)
  | .close id => (session.close id, .done)

end Session

end StepScript
