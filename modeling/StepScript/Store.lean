import StepScript.Json.Reader

/-!
# The store

Saved scripts and records of runs.  Rows are only added; the identifier of a row is one more than
the largest in its table, and each row carries the second in which it was added.  Both tables are
there once the store has been set up.
-/

namespace StepScript

inductive Table where
  | scripts
  | runs
  deriving DecidableEq, Repr

def Table.name : Table → String
  | .scripts => "Scripts"
  | .runs => "Runs"

/-- Why the store cannot answer: an integer does not fit into 64 bits, an integer in a report has
too many digits to be written, or no identifier is left. -/
inductive StoreFault where
  | missingTable (table : Table)
  | integerTooLarge
  | integerTooLong
  | full
  deriving DecidableEq, Repr

def StoreFault.message : StoreFault → String
  | .missingTable table => s!"no such table: {table.name}"
  | .integerTooLarge => "Python int too large to convert to SQLite INTEGER"
  | .integerTooLong =>
    s!"Exceeds the limit ({Json.digitLimit} digits) for integer string conversion; " ++
      "use sys.set_int_max_str_digits() to increase the limit"
  | .full => "database or disk is full"

/-- What the store adds to a row: its identifier, and the second in which it was added. -/
structure Stamp where
  id : Nat
  savedAt : Nat
  deriving DecidableEq, Repr

namespace Stamp

/-- Whether a row comes before another one when the newest are listed first: it was added in a later
second, or in the same second and under an identifier that is not smaller. -/
def precedes (stamp other : Stamp) : Bool :=
  other.savedAt < stamp.savedAt || (other.savedAt == stamp.savedAt && other.id ≤ stamp.id)

/-- One more than the largest identifier. -/
def nextId (stamps : List Stamp) : Nat :=
  (stamps.map Stamp.id).foldr max 0 + 1

end Stamp

structure SavedScript extends Stamp where
  title : Text
  code : Text
  deriving DecidableEq

/-- What a listing tells of a script. -/
structure ListedScript extends Stamp where
  title : Text
  deriving DecidableEq

def SavedScript.listed (script : SavedScript) : ListedScript :=
  ⟨script.toStamp, script.title⟩

/-- The record of a run, with the report of a failed one as JSON text. -/
structure SavedRun extends Stamp where
  scriptId : Option Int
  status : Text
  snapshots : Int
  report : Option Text
  deriving DecidableEq

/-- Scripts and runs, in the order in which they were added.  The tables may not be there yet;
`clock` is the current second. -/
structure Store where
  ready : Bool
  clock : Nat
  scripts : List SavedScript
  runs : List SavedRun

def Store.fits (value : Int) : Bool :=
  -0x8000000000000000 ≤ value && value < 0x8000000000000000

namespace SavedRun

/-- The report of a run, read back.  Text that is no JSON counts as no report. -/
def reportJson (run : SavedRun) : Json :=
  match run.report with
  | none | some [] => .null
  | some text => (Json.read? text).getD .null

end SavedRun

namespace Store

/-- A store without tables. -/
def empty : Store :=
  ⟨false, 0, [], []⟩

/-- Sets up the tables that are missing. -/
def setUp (store : Store) : Store :=
  { store with ready := true }

/-- The store, if its tables are there and the integers to be stored or looked for fit. -/
def check (store : Store) (table : Table) (integers : List Int) : Except StoreFault Unit :=
  if !store.ready then .error (.missingTable table)
  else if integers.all fits then .ok ()
  else .error .integerTooLarge

def nextStamp (store : Store) (stamps : List Stamp) : Except StoreFault Stamp :=
  let id := Stamp.nextId stamps
  if fits id then .ok ⟨id, store.clock⟩ else .error .full

def newestFirst {Row : Type} (stamp : Row → Stamp) (rows : List Row) : List Row :=
  rows.mergeSort fun row other => (stamp row).precedes (stamp other)

/-- Saves a script, and returns its identifier. -/
def saveScript (title code : Text) (store : Store) : Except StoreFault (Store × Nat) := do
  store.check .scripts []
  let stamp ← store.nextStamp (store.scripts.map SavedScript.toStamp)
  return ({ store with scripts := store.scripts ++ [⟨stamp, title, code⟩] }, stamp.id)

/-- All scripts, the newest first. -/
def listScripts (store : Store) : Except StoreFault (List ListedScript) := do
  store.check .scripts []
  return (newestFirst SavedScript.toStamp store.scripts).map SavedScript.listed

def findScript? (id : Int) (store : Store) : Except StoreFault (Option SavedScript) := do
  store.check .scripts [id]
  return store.scripts.find? fun script => (script.id : Int) == id

/-- Records a run, and returns the identifier of the record.  A void report is not stored. -/
def saveRun (scriptId : Option Int) (status : Text) (snapshots : Int) (report : Json)
    (store : Store) : Except StoreFault (Store × Nat) :=
  -- The report is written before the table is looked for.
  if !report.isWritable then .error .integerTooLong
  else do
    store.check .runs (snapshots :: scriptId.toList)
    let stamp ← store.nextStamp (store.runs.map SavedRun.toStamp)
    let text := if report.isVoid then none else some report.write
    let run : SavedRun := ⟨stamp, scriptId, status, snapshots, text⟩
    return ({ store with runs := store.runs ++ [run] }, stamp.id)

/-- The records of the runs of a script, the newest first; of all runs, if no script is named or
its identifier is zero. -/
def listRuns (scriptId : Option Int) (store : Store) : Except StoreFault (List SavedRun) :=
  match scriptId.filter (· != 0) with
  | none => do
    store.check .runs []
    return newestFirst SavedRun.toStamp store.runs
  | some id => do
    store.check .runs [id]
    return newestFirst SavedRun.toStamp (store.runs.filter fun run => run.scriptId == some id)

/-- Replaces the stored report of a run by a text.  Without such a run nothing happens. -/
def replaceReport (id : Int) (report : Option Text) (store : Store) : Except StoreFault Store := do
  store.check .runs [id]
  let replaced (run : SavedRun) : SavedRun :=
    if (run.id : Int) == id then { run with report } else run
  return { store with runs := store.runs.map replaced }

end Store

end StepScript
