import StepScript.Proofs.Json.RoundTrip
import StepScript.Proofs.Service.Request
import StepScript.Proofs.Service.Rows

/-!
# The archive

What callers save, and the runs that they are told have been recorded, are found again: unchanged,
complete and the newest first, however the requests are mixed (`Service.serve_archives`).  Each
request leaves a store that keeps the exchanges so far, and every answer about saved scripts or
recorded runs is read off such a store.
-/

namespace StepScript

/-! ## Reports in the store -/

theorem Json.plain_record {depth : Nat} {fields : List (String × Json)}
    (each : ∀ field ∈ fields, Plain depth field.2) (distinct : (fields.map Prod.fst).Nodup) :
    Plain (depth + 1) (record fields) := by
  apply Plain.object
  · intro field member
    rcases List.mem_map.mp member with ⟨given, found, rfl⟩
    exact each given found
  · have names : (fields.map Prod.fst).map String.toList =
        (fields.map fun field => (field.1.toList, field.2)).map Prod.fst := by
      rw [List.map_map, List.map_map]
      rfl
    exact names ▸ distinct.map fun _ _ => String.toList_injective

namespace Report

theorem plain_optional {α : Type} {depth : Nat} {name : String} {encode : α → Json}
    (plain : ∀ value, Json.Plain depth (encode value)) (value : Option α) :
    ∀ field ∈ (value.map fun value => (name, encode value)).toList, Json.Plain depth field.2 := by
  cases value with
  | none => simp
  | some value => simpa using plain value

theorem names_optional {α : Type} (name : String) (encode : α → Json) (value : Option α) :
    ((value.map fun value => (name, encode value)).toList.map Prod.fst).Sublist [name] := by
  cases value <;> simp

/-- A report is written without doubles and under different names. -/
theorem plain_toJson (report : Report) (depth : Nat) : Json.Plain (depth + 2) report.toJson := by
  apply Json.plain_record
  · simp only [List.forall_mem_append, List.forall_mem_cons]
    refine ⟨⟨⟨⟨⟨⟨⟨?_, ?_, ?_⟩, ?_⟩, ?_⟩, ?_⟩, ?_⟩, ?_⟩, ?_⟩
    · exact .text _ _
    · exact .text _ _
    · simp
    · exact plain_optional (fun place => .integer _ _) _
    · apply plain_optional
      intro place
      apply Json.plain_record <;> simp [Json.Plain.text]
    · exact plain_optional (fun text => .text _ _) _
    · exact plain_optional (fun column => .integer _ _) _
    · exact plain_optional (fun construct => .text _ _) _
    · exact plain_optional (fun hint => .text _ _) _
  · have names : (["code", "message"] ++ ["line"] ++ ["context"] ++ ["expression"] ++ ["column"] ++
        ["construct"] ++ ["hint"]).Nodup := by decide
    apply List.Nodup.sublist _ names
    simp only [List.map_append]
    repeat' apply List.Sublist.append
    · exact List.Sublist.refl _
    all_goals apply names_optional

end Report

theorem SavedRun.reportJson_saved {report : Option Report}
    (writable : (Json.ofOption Report.toJson report).isWritable = true) (stamp : Stamp)
    (scriptId : Option Int) (status : Text) (snapshots : Int) :
    let json := Json.ofOption Report.toJson report
    let text := if json.isVoid then none else some json.write
    (SavedRun.mk stamp scriptId status snapshots text).reportJson = json := by
  cases report with
  | none => rfl
  | some report =>
    have read : Json.read? report.toJson.write = some report.toJson :=
      (report.plain_toJson 988).read?_write writable
    have filled : report.toJson.isVoid = false := rfl
    have written : ∃ rest, report.toJson.write = '\x7b' :: rest := ⟨_, rfl⟩
    rcases written with ⟨rest, written⟩
    rw [written] at read
    simp only [Json.ofOption, filled, written, Bool.false_eq_true, if_false, reportJson, read,
      Option.getD_some]

/-! ## What the exchanges have saved -/

/-- A saved script, as it was given and with the identifier that was answered. -/
structure Saving where
  id : Nat
  title : Text
  code : Text
  deriving DecidableEq

/-- A recorded run: the script that it was named for, and what was answered. -/
structure Recording where
  scriptId : Option Int
  answer : Service.RunAnswer

/-- The script that an exchange has saved. -/
def Exchange.saving? : Exchange → Option Saving
  | ⟨.save title code, .saved (.ok id)⟩ => some ⟨id, title, code⟩
  | _ => none

/-- The run that an exchange has recorded: it was answered with a result and without a warning. -/
def Exchange.recording? : Exchange → Option Recording
  | ⟨.run _ _ scriptId, .ran ⟨.ok result, []⟩⟩ => some ⟨scriptId, ⟨.ok result, []⟩⟩
  | _ => none

/-- The scripts that have been saved, the oldest first. -/
def savings (exchanges : List Exchange) : List Saving :=
  exchanges.filterMap Exchange.saving?

/-- The runs that have been recorded, the oldest first. -/
def recordings (exchanges : List Exchange) : List Recording :=
  exchanges.filterMap Exchange.recording?

/-- What a row holds of a saved script. -/
def SavedScript.saving (script : SavedScript) : Saving :=
  ⟨script.id, script.title, script.code⟩

/-- A row tells what the caller was told of a run. -/
structure SavedRun.Tells (row : SavedRun) (recording : Recording) : Prop where
  scriptId : row.scriptId = recording.scriptId
  status : recording.answer.fields.lookup "status" = some (.text row.status)
  snapshots : row.snapshots = recording.answer.snapshots.length
  report : recording.answer.fields.lookup "errors" = some row.reportJson

/-- A store keeps what has been saved and recorded in some exchanges. -/
structure Store.Keeps (store : Store) (exchanges : List Exchange) : Prop where
  ready : store.ready = true
  scripts : store.scripts.map SavedScript.saving = savings exchanges
  runs : List.Forall₂ SavedRun.Tells store.runs (recordings exchanges)
  scriptStamps : Stamp.Ascending store.clock (store.scripts.map SavedScript.toStamp)
  runStamps : Stamp.Ascending store.clock (store.runs.map SavedRun.toStamp)

/-- What it takes to record a run behind some exchanges: integers that fit, a report that can be
written, and an identifier that is left. -/
structure Recordable (past : List Exchange) (scriptId : Option Int) (snapshots : Int)
    (report : Json) : Prop where
  scriptId : ∀ id ∈ scriptId, Store.fits id = true
  snapshots : Store.fits snapshots = true
  report : report.isWritable = true
  room : Store.fits ((recordings past).length + 1 : Nat) = true

theorem savings_concat (past : List Exchange) (exchange : Exchange) :
    savings (past ++ [exchange]) = savings past ++ exchange.saving?.toList := by
  cases found : exchange.saving? <;> simp [savings, found]

theorem recordings_concat (past : List Exchange) (exchange : Exchange) :
    recordings (past ++ [exchange]) = recordings past ++ exchange.recording?.toList := by
  cases found : exchange.recording? <;> simp [recordings, found]

namespace Store.Keeps

variable {store : Store} {past : List Exchange} {exchange : Exchange}

/-- An exchange that neither saves nor records anything leaves nothing more to keep. -/
theorem skip (keeps : store.Keeps past) (unsaved : exchange.saving? = none)
    (unrecorded : exchange.recording? = none) : store.Keeps (past ++ [exchange]) where
  ready := keeps.ready
  scripts := by rw [savings_concat, unsaved, Option.toList_none, List.append_nil, keeps.scripts]
  runs := by
    rw [recordings_concat, unrecorded, Option.toList_none, List.append_nil]
    exact keeps.runs
  scriptStamps := keeps.scriptStamps
  runStamps := keeps.runStamps

theorem save (keeps : store.Keeps past) {script : SavedScript}
    (saved : exchange.saving? = some script.saving) (unrecorded : exchange.recording? = none)
    (given : store.nextStamp (store.scripts.map SavedScript.toStamp) = .ok script.toStamp) :
    Store.Keeps { store with scripts := store.scripts ++ [script] } (past ++ [exchange]) where
  ready := keeps.ready
  scripts := by
    rw [savings_concat, saved, List.map_append, keeps.scripts]
    rfl
  runs := by
    rw [recordings_concat, unrecorded, Option.toList_none, List.append_nil]
    exact keeps.runs
  scriptStamps := by
    rw [List.map_append]
    exact keeps.scriptStamps.concat given
  runStamps := keeps.runStamps

theorem record (keeps : store.Keeps past) {row : SavedRun} {recording : Recording}
    (unsaved : exchange.saving? = none) (recorded : exchange.recording? = some recording)
    (tells : row.Tells recording)
    (given : store.nextStamp (store.runs.map SavedRun.toStamp) = .ok row.toStamp) :
    Store.Keeps { store with runs := store.runs ++ [row] } (past ++ [exchange]) where
  ready := keeps.ready
  scripts := by rw [savings_concat, unsaved, Option.toList_none, List.append_nil, keeps.scripts]
  runs := by
    rw [recordings_concat, recorded]
    exact List.rel_append keeps.runs (.cons tells .nil)
  scriptStamps := keeps.scriptStamps
  runStamps := by
    rw [List.map_append]
    exact keeps.runStamps.concat given

/-- Time goes on between the exchanges. -/
theorem wait (keeps : store.Keeps past) {second : Nat} (later : store.clock ≤ second) :
    Store.Keeps { store with clock := second } past where
  ready := keeps.ready
  scripts := keeps.scripts
  runs := keeps.runs
  scriptStamps := keeps.scriptStamps.mono later
  runStamps := keeps.runStamps.mono later

theorem setUp (keeps : store.Keeps past) : store.setUp.Keeps past where
  ready := rfl
  scripts := keeps.scripts
  runs := keeps.runs
  scriptStamps := keeps.scriptStamps
  runStamps := keeps.runStamps

end Store.Keeps

/-! ## One request -/

/-- What an exchange can do to a store: nothing, set up its tables, add a script that it has saved,
or add a row that tells of the run that it has recorded. -/
inductive Exchange.Leaves (store : Store) (exchange : Exchange) : Store → Prop
  | unchanged (unsaved : exchange.saving? = none) (unrecorded : exchange.recording? = none) :
      Leaves store exchange store
  | ready (unsaved : exchange.saving? = none) (unrecorded : exchange.recording? = none) :
      Leaves store exchange store.setUp
  | saved {script : SavedScript} (saved : exchange.saving? = some script.saving)
      (unrecorded : exchange.recording? = none)
      (given : store.nextStamp (store.scripts.map SavedScript.toStamp) = .ok script.toStamp) :
      Leaves store exchange { store with scripts := store.scripts ++ [script] }
  | recorded {row : SavedRun} {recording : Recording} (unsaved : exchange.saving? = none)
      (recorded : exchange.recording? = some recording) (tells : row.Tells recording)
      (given : store.nextStamp (store.runs.map SavedRun.toStamp) = .ok row.toStamp) :
      Leaves store exchange { store with runs := store.runs ++ [row] }

namespace Service

variable {store left : Store} {request : Request} {response : Response}

theorem leaves_of_save {title code : Text}
    (performed : perform store (.save title code) = (left, response)) :
    Exchange.Leaves store ⟨.save title code, response⟩ left := by
  cases saved : store.saveScript title code with
  | error cause =>
    simp only [perform, saved, Prod.mk.injEq] at performed
    rcases performed with ⟨rfl, rfl⟩
    exact .unchanged rfl rfl
  | ok saving =>
    rcases saving with ⟨extended, id⟩
    simp only [perform, saved, Prod.mk.injEq] at performed
    rcases performed with ⟨rfl, rfl⟩
    rcases Store.saveScript_ok saved with ⟨stamp, given, rfl, rfl⟩
    exact .saved rfl rfl given

theorem leaves_of_run {script : Text} {settings : Json} {scriptId : Option Int}
    (performed : perform store (.run script settings scriptId) = (left, response)) :
    Exchange.Leaves store ⟨.run script settings scriptId, response⟩ left := by
  rcases ran : run script settings scriptId store with ⟨recorded, answer⟩
  simp only [perform, ran, Prod.mk.injEq] at performed
  rcases performed with ⟨rfl, rfl⟩
  unfold run at ran
  split at ran
  next cause failed =>
    cases ran
    exact .unchanged rfl rfl
  next result executed =>
    split at ran
    next recorded id saved =>
      cases ran
      rcases Store.saveRun_ok saved with ⟨writable, _, stamp, given, rfl⟩
      refine .recorded rfl rfl ?_ given
      constructor
      · rfl
      · rfl
      · rfl
      · rw [SavedRun.reportJson_saved writable]
        rfl
    next cause refused =>
      cases ran
      exact .unchanged rfl rfl

/-- Whatever is asked, the store is left in one of the four ways. -/
theorem leaves_of_perform (performed : perform store request = (left, response)) :
    Exchange.Leaves store ⟨request, response⟩ left := by
  cases request with
  | startUp =>
    cases performed
    exact .ready rfl rfl
  | run => exact leaves_of_run performed
  | save => exact leaves_of_save performed
  | validate | stream | listScripts | getScript | listStats | listSamples | getSample =>
    cases performed
    exact .unchanged rfl rfl

end Service

namespace Exchange.Leaves

variable {store left : Store} {exchange : Exchange} {past : List Exchange}

/-- No row is taken away or changed. -/
theorem extends_rows (leaves : exchange.Leaves store left) :
    store.scripts <+: left.scripts ∧ store.runs <+: left.runs := by
  cases leaves with
  | unchanged | ready => exact ⟨List.prefix_rfl, List.prefix_rfl⟩
  | saved => exact ⟨List.prefix_append _ _, List.prefix_rfl⟩
  | recorded => exact ⟨List.prefix_rfl, List.prefix_append _ _⟩

theorem clock_eq (leaves : exchange.Leaves store left) : left.clock = store.clock := by
  cases leaves <;> rfl

/-- A store that keeps what came before an exchange is left keeping the exchange as well. -/
theorem keeps (leaves : exchange.Leaves store left) (kept : store.Keeps past) :
    left.Keeps (past ++ [exchange]) := by
  cases leaves with
  | unchanged unsaved unrecorded => exact kept.skip unsaved unrecorded
  | ready unsaved unrecorded => exact kept.setUp.skip unsaved unrecorded
  | saved saved unrecorded given => exact kept.save saved unrecorded given
  | recorded unsaved recorded tells given => exact kept.record unsaved recorded tells given

end Exchange.Leaves

/-! ## All requests -/

namespace Service

variable {store last : Store} {exchanges : List Exchange}

/-- Some exchanges lead from one store to another, while time goes on. -/
inductive Leads : Store → List Exchange → Store → Prop
  | nil (store : Store) : Leads store [] store
  | cons {store left last : Store} {second : Nat} {request : Request} {response : Response}
      {exchanges : List Exchange} (later : store.clock ≤ second)
      (performed : perform { store with clock := second } request = (left, response))
      (rest : Leads left exchanges last) : Leads store (⟨request, response⟩ :: exchanges) last

namespace Leads

theorem extends_rows (leads : Leads store exchanges last) :
    store.scripts <+: last.scripts ∧ store.runs <+: last.runs := by
  induction leads with
  | nil store => exact ⟨List.prefix_rfl, List.prefix_rfl⟩
  | cons later performed rest ih =>
    have here := (leaves_of_perform performed).extends_rows
    exact ⟨here.1.trans ih.1, here.2.trans ih.2⟩

theorem keeps (leads : Leads store exchanges last) {past : List Exchange}
    (kept : store.Keeps past) : last.Keeps (past ++ exchanges) := by
  induction leads generalizing past with
  | nil store => rwa [List.append_nil]
  | cons later performed rest ih =>
    have here := (leaves_of_perform performed).keeps (kept.wait later)
    rw [List.append_cons]
    exact ih here

/-- The exchanges up to one of them lead to the store that answers it. -/
theorem split {past behind : List Exchange} {request : Request} {response : Response}
    (leads : Leads store (past ++ ⟨request, response⟩ :: behind) last) :
    ∃ between left, Leads store past between ∧
      (∃ second ≥ between.clock,
        perform { between with clock := second } request = (left, response)) ∧
      Leads left behind last := by
  induction past generalizing store with
  | nil =>
    cases leads with
    | cons later performed rest =>
      exact ⟨store, _, .nil store, ⟨_, later, performed⟩, rest⟩
  | cons exchange past ih =>
    cases leads with
    | cons later performed rest =>
      rcases ih rest with ⟨between, left, before, answered, after⟩
      exact ⟨between, left, .cons later performed before, answered, after⟩

end Leads

/-- Calls that are made one after the other lead from the first store to the last. -/
theorem leads_serve {calls : List Call} (ordered : calls.Pairwise (·.second ≤ ·.second))
    (later : ∀ call ∈ calls, store.clock ≤ call.second) :
    Leads store (serve store calls).2 (serve store calls).1 := by
  induction calls generalizing store with
  | nil => exact .nil store
  | cons call calls ih =>
    rcases performed : perform { store with clock := call.second } call.request with
      ⟨left, response⟩
    have clock : left.clock = call.second := (leaves_of_perform performed).clock_eq
    have behind : Leads left (serve left calls).2 (serve left calls).1 :=
      ih ordered.of_cons fun other member =>
        clock.symm ▸ List.rel_of_pairwise_cons ordered member
    simp only [serve, performed]
    exact .cons (later call List.mem_cons_self) performed behind

end Service

/-! ## Answers -/

namespace Store.Keeps

variable {store : Store} {past : List Exchange}

theorem check_eq (keeps : store.Keeps past) (table : Table) (integers : List Int)
    (fits : ∀ integer ∈ integers, Store.fits integer = true) :
    store.check table integers = .ok () := by
  have all : integers.all Store.fits = true := List.all_eq_true.mpr fits
  simp [check, keeps.ready, all]

theorem length_scripts (keeps : store.Keeps past) :
    (store.scripts.map SavedScript.toStamp).length = (savings past).length := by
  rw [← keeps.scripts, List.length_map, List.length_map]

theorem length_runs (keeps : store.Keeps past) :
    (store.runs.map SavedRun.toStamp).length = (recordings past).length := by
  rw [List.length_map]
  exact keeps.runs.length_eq

theorem distinct (keeps : store.Keeps past) : ((savings past).map Saving.id).Nodup := by
  rw [← keeps.scripts, List.map_map, List.Nodup, List.pairwise_map]
  exact (List.pairwise_map.mp keeps.scriptStamps.ordered).imp fun before => before.2.ne

/-- A script is saved under the next number, as long as the number fits. -/
theorem saveScript_eq (keeps : store.Keeps past) (title code : Text) :
    store.saveScript title code =
      let id := (savings past).length + 1
      if fits (id : Nat) then
        .ok ({ store with scripts := store.scripts ++ [⟨⟨id, store.clock⟩, title, code⟩] }, id)
      else .error .full := by
  rw [saveScript, keeps.check_eq .scripts [] (by simp), keeps.scriptStamps.nextStamp_eq,
    keeps.length_scripts]
  by_cases room : fits ((savings past).length + 1 : Nat) = true
  · simp only [room, if_true]
    rfl
  · simp only [room]
    rfl

theorem saveRun_isOk_iff (keeps : store.Keeps past) {scriptId : Option Int} {status : Text}
    {snapshots : Int} {report : Json} :
    (∃ extended, store.saveRun scriptId status snapshots report = .ok extended) ↔
      Recordable past scriptId snapshots report := by
  constructor
  · rintro ⟨⟨extended, id⟩, saved⟩
    rcases saveRun_ok saved with ⟨writable, checked, stamp, given, _⟩
    rw [keeps.runStamps.nextStamp_eq, keeps.length_runs] at given
    have fitting := fits_of_check checked
    rw [List.forall_mem_cons] at fitting
    constructor
    · exact fun id member => fitting.2 id (Option.mem_toList.mpr member)
    · exact fitting.1
    · exact writable
    · split at given
      next room => exact room
      next => cases given
  · intro recordable
    have checked : store.check .runs (snapshots :: scriptId.toList) = .ok () := by
      apply keeps.check_eq
      rw [List.forall_mem_cons]
      refine ⟨recordable.snapshots, ?_⟩
      exact fun id member => recordable.scriptId id (Option.mem_toList.mp member)
    have given := keeps.runStamps.nextStamp_eq
    rw [keeps.length_runs, if_pos recordable.room] at given
    simp only [saveRun, recordable.report, checked, given]
    exact ⟨_, rfl⟩

/-- A script that has been saved is found. -/
theorem findScript?_eq (keeps : store.Keeps past) {saving : Saving}
    (member : saving ∈ savings past) :
    ∃ script, store.findScript? saving.id = .ok (some script) ∧ script.saving = saving := by
  rw [← keeps.scripts] at member
  rcases List.mem_map.mp member with ⟨script, found, rfl⟩
  have fits := keeps.scriptStamps.fits script.toStamp (List.mem_map_of_mem found)
  have checked : store.check .scripts [(script.saving.id : Int)] = .ok () := by
    apply keeps.check_eq
    intro integer only
    rw [List.mem_singleton.mp only]
    exact fits
  refine ⟨script, ?_, rfl⟩
  rw [findScript?, checked]
  exact congrArg Except.ok (find?_eq_some keeps.scriptStamps found)

theorem findScript?_eq_none (keeps : store.Keeps past) {id : Int} (fitting : fits id = true)
    (unsaved : ∀ saving ∈ savings past, (saving.id : Int) ≠ id) :
    store.findScript? id = .ok none := by
  have checked : store.check .scripts [id] = .ok () := by
    apply keeps.check_eq
    intro integer only
    rw [List.mem_singleton.mp only]
    exact fitting
  have missing : store.scripts.find? (fun script => (script.id : Int) == id) = none := by
    rw [List.find?_eq_none]
    intro script member same
    have saved : script.saving ∈ savings past := keeps.scripts ▸ List.mem_map_of_mem member
    exact unsaved script.saving saved (eq_of_beq same)
  rw [findScript?, checked]
  exact congrArg Except.ok missing

theorem listScripts_eq (keeps : store.Keeps past) :
    store.listScripts = .ok (store.scripts.reverse.map SavedScript.listed) := by
  rw [listScripts, keeps.check_eq .scripts [] (by simp), newestFirst_eq_reverse keeps.scriptStamps]
  rfl

theorem listRuns_eq (keeps : store.Keeps past) : store.listRuns none = .ok store.runs.reverse := by
  have all : store.listRuns none = (do
    store.check .runs []
    return newestFirst SavedRun.toStamp store.runs) := rfl
  rw [all, keeps.check_eq .runs [] (by simp), newestFirst_eq_reverse keeps.runStamps]
  rfl

end Store.Keeps

/-- The store that the first start of a service leaves. -/
def Store.opened : Store :=
  (Service.perform .empty .startUp).1

theorem Store.keeps_opened : Store.opened.Keeps [] where
  ready := rfl
  scripts := rfl
  runs := .nil
  scriptStamps := .nil _
  runStamps := .nil _

namespace Service

/-- What is answered is read off an archive to which rows are only added.  Scripts are saved under
the numbers from one on, as long as these fit into 64 bits, and each is found under its number as it
was given.  Rows are listed with the newest first.  That of a run tells what the caller was told,
and there is one unless the caller was warned. -/
structure Archives (exchanges : List Exchange) : Prop where
  saved : ∀ past title code response, past ++ [⟨.save title code, response⟩] <+: exchanges →
    let id := (savings past).length + 1
    response = .saved (if Store.fits (id : Nat) then .ok id else .error .full)
  distinct : ((savings exchanges).map Saving.id).Nodup
  found : ∀ past saving response, past ++ [⟨.getScript saving.id, response⟩] <+: exchanges →
    saving ∈ savings past →
    ∃ script, response = .script (.ok (some script)) ∧ script.saving = saving
  missing : ∀ past id response, past ++ [⟨.getScript id, response⟩] <+: exchanges →
    Store.fits id = true → (∀ saving ∈ savings past, (saving.id : Int) ≠ id) →
    response = .script (.ok none)
  listed : ∀ past response, past ++ [⟨.listScripts, response⟩] <+: exchanges →
    ∃ rows, response = .scripts (.ok rows) ∧
      rows.map (fun row => (row.id, row.title)) =
        (savings past).reverse.map fun saving => (saving.id, saving.title)
  warned : ∀ past script settings scriptId answer result,
    past ++ [⟨.run script settings scriptId, .ran answer⟩] <+: exchanges →
    answer.result = .ok result →
    (answer.warnings = [] ↔ Recordable past scriptId result.snapshots.length
      (.ofOption Report.toJson result.outcome.report))
  recorded : ∀ past response, past ++ [⟨.listStats none, response⟩] <+: exchanges →
    ∃ rows, response = .stats (.ok rows) ∧
      List.Forall₂ SavedRun.Tells rows (recordings past).reverse
  kept : ∀ past between earlier later,
    past ++ ⟨.listStats none, .stats (.ok earlier)⟩ :: between ++
      [⟨.listStats none, .stats (.ok later)⟩] <+: exchanges → earlier <:+ later

/-- The exchanges before an answer lead to a store that keeps them and gives the answer. -/
theorem Leads.answers {store last : Store} {past exchanges : List Exchange} {request : Request}
    {response : Response} (leads : Leads store exchanges last) (kept : store.Keeps [])
    (asked : past ++ [⟨request, response⟩] <+: exchanges) :
    ∃ between left, between.Keeps past ∧ perform between request = (left, response) := by
  rcases asked with ⟨behind, rfl⟩
  rw [List.append_assoc, List.singleton_append] at leads
  rcases leads.split with ⟨between, left, before, ⟨second, later, answered⟩, _⟩
  exact ⟨_, left, (before.keeps kept).wait later, answered⟩

theorem eq_of_listed {store left : Store} {past : List Exchange} {rows : List SavedRun}
    (keeps : store.Keeps past)
    (answered : perform store (.listStats none) = (left, .stats (.ok rows))) :
    left = store ∧ rows = store.runs.reverse := by
  rw [perform, keeps.listRuns_eq] at answered
  cases answered
  exact ⟨rfl, rfl⟩

/-- The rows of an earlier list end a later one: the store has only been extended in between. -/
theorem Leads.kept {store last : Store} {past between behind : List Exchange}
    {earlier later : List SavedRun}
    (leads : Leads store (past ++ ⟨.listStats none, .stats (.ok earlier)⟩ ::
      (between ++ ⟨.listStats none, .stats (.ok later)⟩ :: behind)) last)
    (kept : store.Keeps []) : earlier <:+ later := by
  rcases leads.split with ⟨first, left, before, ⟨second, waited, answered⟩, after⟩
  have keepsFirst := (before.keeps kept).wait waited
  have keepsLeft := (leaves_of_perform answered).keeps keepsFirst
  rcases eq_of_listed keepsFirst answered with ⟨rfl, rfl⟩
  rcases after.split with ⟨next, _, since, ⟨third, waitedToo, answeredToo⟩, _⟩
  have keepsNext := (since.keeps keepsLeft).wait waitedToo
  rcases eq_of_listed keepsNext answeredToo with ⟨_, rfl⟩
  exact List.reverse_suffix.mpr since.extends_rows.2

/-- A result is answered without a warning if it has been recorded. -/
theorem warnings_run {script : Text} {settings : Json} {result : RunResult}
    (executed : execute script settings = .ok result) (scriptId : Option Int) (store : Store) :
    (run script settings scriptId store).2.warnings = [] ↔
      ∃ recorded, record scriptId result store = .ok recorded := by
  simp only [run, executed]
  cases record scriptId result store with
  | error cause => simp
  | ok recorded => simp

/-- However requests are mixed, the service keeps an archive. -/
theorem serve_archives {calls : List Call} (ordered : calls.Pairwise (·.second ≤ ·.second)) :
    Archives (serve Store.opened calls).2 := by
  have leads : Leads .opened (serve .opened calls).2 (serve .opened calls).1 :=
    leads_serve ordered fun _ _ => Nat.zero_le _
  constructor
  case saved =>
    intro past title code response asked
    rcases leads.answers Store.keeps_opened asked with ⟨between, left, keeps, answered⟩
    by_cases room : Store.fits ((savings past).length + 1 : Nat) = true
    · simp only [perform, keeps.saveScript_eq, room, if_true, Prod.mk.injEq] at answered ⊢
      exact answered.2.symm
    · simp only [perform, keeps.saveScript_eq, room, Bool.false_eq_true, if_false,
        Prod.mk.injEq] at answered ⊢
      exact answered.2.symm
  case distinct => exact (leads.keeps Store.keeps_opened).distinct
  case found =>
    intro past saving response asked member
    rcases leads.answers Store.keeps_opened asked with ⟨between, left, keeps, answered⟩
    rcases keeps.findScript?_eq member with ⟨script, found, same⟩
    cases answered
    exact ⟨script, by rw [found], same⟩
  case missing =>
    intro past id response asked fitting unsaved
    rcases leads.answers Store.keeps_opened asked with ⟨between, left, keeps, answered⟩
    cases answered
    rw [keeps.findScript?_eq_none fitting unsaved]
  case listed =>
    intro past response asked
    rcases leads.answers Store.keeps_opened asked with ⟨between, left, keeps, answered⟩
    cases answered
    refine ⟨_, by rw [keeps.listScripts_eq], ?_⟩
    rw [← keeps.scripts, ← List.map_reverse, List.map_map, List.map_map]
    rfl
  case warned =>
    intro past script settings scriptId answer result asked returned
    rcases leads.answers Store.keeps_opened asked with ⟨between, left, keeps, answered⟩
    have same : (run script settings scriptId between).2 = answer :=
      Response.ran.inj (congrArg Prod.snd answered)
    rw [← same, result_run] at returned
    rw [← same, warnings_run returned]
    exact keeps.saveRun_isOk_iff
  case recorded =>
    intro past response asked
    rcases leads.answers Store.keeps_opened asked with ⟨between, left, keeps, answered⟩
    cases answered
    refine ⟨_, by rw [keeps.listRuns_eq], ?_⟩
    exact List.rel_reverse keeps.runs
  case kept =>
    intro past between earlier later asked
    rcases asked with ⟨behind, same⟩
    rw [List.append_assoc, List.append_assoc, List.cons_append, List.singleton_append] at same
    rw [← same] at leads
    exact leads.kept Store.keeps_opened

/-- A service that is started again between a saved script with a rejected run and their listing
keeps an archive of both. -/
theorem serve_archives_of_rejection :
    let script := "def f".toList
    let calls : List Call :=
      [⟨7, .save ['f'] script⟩, ⟨7, .run script .null (some 1)⟩, ⟨9, .startUp⟩,
        ⟨9, .listStats none⟩]
    calls.Pairwise (·.second ≤ ·.second) ∧
      savings (serve .opened calls).2 = [⟨1, ['f'], script⟩] ∧
      (recordings (serve .opened calls).2).map Recording.scriptId = [some 1] ∧
      Archives (serve .opened calls).2 := by
  intro script calls
  have ordered : calls.Pairwise (·.second ≤ ·.second) := by decide
  have violated : Dialect.violation? script = some .definition := by cbv
  have read : Settings.limits .null = .ok .standard := rfl
  have idle : (Engine.withLimits .standard).isRunning = false := rfl
  have executed := execute_of_run read (Engine.run_of_violation idle violated)
  refine ⟨ordered, ?_, ?_, serve_archives ordered⟩ <;>
    (simp only [calls, serve, perform, run, executed]
     cbv)

end Service

end StepScript
