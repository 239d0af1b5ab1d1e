import StepScript.Engine.Stream

/-!
# Delivery

A run can be delivered item by item: its snapshots, and the outcome behind them.  The reader may
stop early, and the run is then given up.
-/

namespace StepScript

/-- One item of a delivered run. -/
inductive Item where
  | snapshot (shown : Snapshot)
  | outcome (reached : Outcome)

def Item.toJson : Item → Json
  | .snapshot shown => shown.toJson
  | .outcome reached => .record [("outcome", reached.toJson)]

namespace Engine

/-- Delivers the items of a stream that are left.  `room` is how many the reader still takes; a
reader without a bound takes all.  `delivered` are the items so far, newest first. -/
def deliver (engine : Engine) (stream : Stream) (room : Option Nat) (delivered : List Item) :
    Engine × Except Interruption (List Item) :=
  match room with
  | some 0 => (engine.close stream, .ok delivered.reverse)
  | _ =>
    match _answer : engine.next stream with
    | (suspended, .snapshot shown rest) =>
      deliver suspended rest (room.map (· - 1)) (.snapshot shown :: delivered)
    | (ended, .outcome reached) => (ended, .ok (Item.outcome reached :: delivered).reverse)
    | (stopped, .interrupted cause) => (stopped, .error cause)
termination_by stream.measure engine.limits
decreasing_by exact Stream.decreases_of_next _answer

end Engine

end StepScript
