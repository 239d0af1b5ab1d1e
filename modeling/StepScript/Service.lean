import StepScript.Engine.Delivery
import StepScript.Engine.Run
import StepScript.Sample
import StepScript.Settings
import StepScript.Store

/-!
# The service

Each request works on an engine of its own, under the limits that the caller's settings allow.
Only saved scripts and the records of runs outlive a request.
-/

namespace StepScript

/-- Why a request ends without an answer. -/
inductive RequestFault where
  | setting (cause : SettingFault)
  | interruption (cause : Interruption)
  deriving DecidableEq

def RequestFault.message : RequestFault → String
  | .setting cause => cause.message
  | .interruption cause => cause.message

namespace Service

/-- A new engine under the limits that the settings allow. -/
def engineFor (settings : Json) : Except RequestFault Engine :=
  match Settings.limits settings with
  | .ok limits => .ok (Engine.withLimits limits)
  | .error cause => .error (.setting cause)

/-- The report on a script in a foreign dialect; none if the script can be run. -/
def validate (script : Text) : Option Report :=
  (Dialect.violation? script).map .ofRule

/-- What a request to run a script answers. -/
structure RunAnswer where
  result : Except RequestFault RunResult
  warnings : List String

/-- Runs a script without pauses. -/
def execute (script : Text) (settings : Json) : Except RequestFault RunResult :=
  match engineFor settings with
  | .error cause => .error cause
  | .ok engine => (engine.run script none fun _ => false).2.mapError .interruption

def record (scriptId : Option Int) (result : RunResult) (store : Store) :
    Except StoreFault (Store × Nat) :=
  store.saveRun scriptId result.outcome.phase.word.toList result.snapshots.length
    (.ofOption Report.toJson result.outcome.report)

/-- Runs a script and records the run.  A run that cannot be recorded is answered with a warning,
and a run without a result is not recorded. -/
def run (script : Text) (settings : Json) (scriptId : Option Int) (store : Store) :
    Store × RunAnswer :=
  match execute script settings with
  | .error cause => (store, ⟨.error cause, []⟩)
  | .ok result =>
    match record scriptId result store with
    | .ok (recorded, _) => (recorded, ⟨.ok result, []⟩)
    | .error cause => (store, ⟨.ok result, [s!"Failed to persist run: {cause.message}"]⟩)

/-- The fields of an answer as JSON, without the snapshots.  A request without a result is a fault
of the server. -/
def RunAnswer.fields (answer : RunAnswer) : List (String × Json) :=
  let warnings := ("warnings", Json.array (answer.warnings.map .string))
  match answer.result with
  | .ok result => warnings :: result.fields
  | .error cause =>
    [warnings, ("status", .string Phase.failed.word), ("output", .string ""), ("log", .array []),
      ("variables", .array []),
      ("errors",
        .record [("code", .string "SERVER_ERROR"), ("message", .string cause.message)])]

def RunAnswer.snapshots (answer : RunAnswer) : List Snapshot :=
  match answer.result with
  | .ok result => result.snapshots
  | .error _ => []

/-- Delivers the items of a run up to a number of them, and tells where the engine then stands. -/
def deliver (script : Text) (settings : Json) (speed : Option Value) (room : Option Nat) :
    Except RequestFault (List Item × Phase) :=
  match engineFor settings with
  | .error cause => .error cause
  | .ok engine =>
    match engine.deliver (.unstarted script speed) room [] with
    | (engine, .ok items) => .ok (items, engine.phase)
    | (_, .error cause) => .error (.interruption cause)

end Service

/-- What a caller asks of the service.  Of a stream, the caller takes a number of items. -/
inductive Request where
  | startUp
  | validate (script : Text)
  | run (script : Text) (settings : Json) (scriptId : Option Int)
  | stream (script : Text) (settings : Json) (speed : Option Value) (room : Option Nat)
  | save (title code : Text)
  | listScripts
  | getScript (id : Int)
  | listStats (scriptId : Option Int)
  | listSamples
  | getSample (name : Text)

/-- What the service answers. -/
inductive Response where
  | started
  | validated (report : Option Report)
  | ran (answer : Service.RunAnswer)
  | streamed (delivered : Except RequestFault (List Item × Phase))
  | saved (id : Except StoreFault Nat)
  | scripts (rows : Except StoreFault (List ListedScript))
  | script (found : Except StoreFault (Option SavedScript))
  | stats (rows : Except StoreFault (List SavedRun))
  | samples (all : List Sample)
  | sample (found : Option Sample)

/-- A request, and the second in which it is made. -/
structure Call where
  second : Nat
  request : Request

/-- A request and what it was answered. -/
structure Exchange where
  request : Request
  response : Response

namespace Service

/-- Answers a request. -/
def perform (store : Store) : Request → Store × Response
  | .startUp => (store.setUp, .started)
  | .validate script => (store, .validated (validate script))
  | .run script settings scriptId =>
    let (recorded, answer) := run script settings scriptId store
    (recorded, .ran answer)
  | .stream script settings speed room => (store, .streamed (deliver script settings speed room))
  | .save title code =>
    match store.saveScript title code with
    | .ok (extended, id) => (extended, .saved (.ok id))
    | .error cause => (store, .saved (.error cause))
  | .listScripts => (store, .scripts store.listScripts)
  | .getScript id => (store, .script (store.findScript? id))
  | .listStats scriptId => (store, .stats (store.listRuns scriptId))
  | .listSamples => (store, .samples Sample.all)
  | .getSample name => (store, .sample (Sample.find? name))

/-- Answers calls one after the other, and tells what each of them was answered. -/
def serve (store : Store) : List Call → Store × List Exchange
  | [] => (store, [])
  | call :: calls =>
    let (left, response) := perform { store with clock := call.second } call.request
    let (last, exchanges) := serve left calls
    (last, ⟨call.request, response⟩ :: exchanges)

end Service

end StepScript
