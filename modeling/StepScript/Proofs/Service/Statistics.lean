import StepScript.Proofs.Service.Archive

/-!
# Statistics of one script

The records of the runs of one script are asked for by a query of their own.  Sorting and choosing
rows can change places (`Store.newestFirst_filter`), so for every identifier but zero that query
lists the chosen rows of the whole list, in their order.  The identifier zero counts as none and
lists the runs of all scripts (`Service.listStats_iff`, `Service.not_listStats_of_zero`).
-/

namespace StepScript

namespace Stamp

variable {first second third : Stamp}

theorem precedes_total (first second : Stamp) :
    (first.precedes second || second.precedes first) = true := by
  simp only [Bool.or_eq_true, precedes_iff]
  omega

theorem precedes_trans (left : first.precedes second = true)
    (right : second.precedes third = true) : first.precedes third = true := by
  simp only [precedes_iff] at left right ⊢
  omega

end Stamp

namespace Store

variable {Row : Type} {stamp : Row → Stamp}

/-- Of two lists that are split in front of an element, where the element comes before everything
behind the split and before nothing in front of it, the front parts are equal if the lists are. -/
theorem eq_of_append_eq {α : Type} {before : α → Bool} {front behind other more : List α}
    (same : front ++ behind = other ++ more) (inFront : ∀ item ∈ front, before item = false)
    (ahead : ∀ item ∈ behind, before item = true) (inOther : ∀ item ∈ other, before item = false)
    (aheadToo : ∀ item ∈ more, before item = true) : front = other ∧ behind = more := by
  have split {left right : List α} (unready : ∀ item ∈ left, before item = false)
      (ready : ∀ item ∈ right, before item = true) :
      (left ++ right).takeWhile (!before ·) = left := by
    have all : ∀ item ∈ left, (!before item) = true := by simpa using unready
    rw [List.takeWhile_append_of_pos all]
    cases right with
    | nil => simp
    | cons item right => simp [ready item List.mem_cons_self]
  have fronts : front = other := by
    rw [← split inFront ahead, same, split inOther aheadToo]
  subst fronts
  exact ⟨rfl, List.append_cancel_left same⟩

/-- Where a row comes to stand in front of others, and how the others stand without it. -/
theorem newestFirst_cons (stamp : Row → Stamp) (row : Row) (rows : List Row) :
    ∃ front behind, newestFirst stamp (row :: rows) = front ++ row :: behind ∧
      newestFirst stamp rows = front ++ behind ∧
      (∀ other ∈ front, (stamp row).precedes (stamp other) = false) ∧
      ∀ other ∈ behind, (stamp row).precedes (stamp other) = true := by
  have trans (a b c : Row) (left : (stamp a).precedes (stamp b) = true)
      (right : (stamp b).precedes (stamp c) = true) : (stamp a).precedes (stamp c) = true :=
    Stamp.precedes_trans left right
  have total (a b : Row) :
      ((stamp a).precedes (stamp b) || (stamp b).precedes (stamp a)) = true :=
    Stamp.precedes_total _ _
  obtain ⟨front, behind, whole, rest, later⟩ := List.mergeSort_cons trans total row rows
  refine ⟨front, behind, whole, rest, ?_, ?_⟩
  · intro other member
    simpa using later other member
  · have sorted := List.pairwise_mergeSort trans total (row :: rows)
    rw [whole, List.pairwise_append, List.pairwise_cons] at sorted
    exact sorted.2.1.1

/-- Rows that are left out before the newest are put first are left out behind it. -/
theorem newestFirst_filter (stamp : Row → Stamp) (chosen : Row → Bool) (rows : List Row) :
    newestFirst stamp (rows.filter chosen) = (newestFirst stamp rows).filter chosen := by
  induction rows with
  | nil => simp [newestFirst]
  | cons row rows ih =>
    obtain ⟨front, behind, whole, rest, unready, ready⟩ := newestFirst_cons stamp row rows
    rw [rest, List.filter_append] at ih
    by_cases kept : chosen row = true
    · obtain ⟨frontToo, behindToo, wholeToo, restToo, unreadyToo, readyToo⟩ :=
        newestFirst_cons stamp row (rows.filter chosen)
      -- The row parts both lists at the same place: behind all rows that it does not precede.
      obtain ⟨rfl, rfl⟩ := eq_of_append_eq (restToo.symm.trans ih) unreadyToo readyToo
        (fun other member => unready other (List.mem_of_mem_filter member))
        (fun other member => ready other (List.mem_of_mem_filter member))
      rw [List.filter_cons_of_pos kept, wholeToo, whole, List.filter_append,
        List.filter_cons_of_pos kept]
    · rw [List.filter_cons_of_neg kept, ih, whole, List.filter_append,
        List.filter_cons_of_neg kept]

theorem listRuns_none {store : Store} (ready : store.ready = true) :
    store.listRuns none = .ok (newestFirst SavedRun.toStamp store.runs) := by
  have checked : store.check .runs [] = .ok () := by simp [check, ready]
  change (do
    store.check .runs []
    return newestFirst SavedRun.toStamp store.runs) = _
  rw [checked]
  rfl

/-- Zero asks for no script in particular. -/
theorem listRuns_zero (store : Store) : store.listRuns (some 0) = store.listRuns none := rfl

theorem listRuns_some {store : Store} {id : Int} (ready : store.ready = true)
    (fitting : fits id = true) (nonzero : id ≠ 0) :
    store.listRuns (some id) = .ok
      ((newestFirst SavedRun.toStamp store.runs).filter fun run => run.scriptId == some id) := by
  have checked : store.check .runs [id] = .ok () := by simp [check, ready, fitting]
  have named : (some id).filter (· != 0) = some id := by simp [Option.filter, nonzero]
  rw [listRuns, named]
  dsimp only
  rw [checked, newestFirst_filter]
  rfl

end Store

namespace Service

/-- No request takes the tables away. -/
theorem ready_of_perform {store left : Store} {request : Request} {response : Response}
    (performed : perform store request = (left, response)) (ready : store.ready = true) :
    left.ready = true := by
  cases leaves_of_perform performed with
  | unchanged | saved | recorded => exact ready
  | ready => rfl

theorem ready_serve {store : Store} (ready : store.ready = true) (calls : List Call) :
    (serve store calls).1.ready = true := by
  induction calls generalizing store with
  | nil => exact ready
  | cons call calls ih =>
    rcases performed : perform { store with clock := call.second } call.request with
      ⟨left, response⟩
    simp only [serve, performed]
    exact ih (ready_of_perform performed ready)

/-- The rows that a store lists for a script are the rows of the script among all that it lists. -/
def ListsRowsOf (store : Store) (id : Int) : Prop :=
  ∃ rows, (perform store (.listStats none)).2 = .stats (.ok rows) ∧
    (perform store (.listStats (some id))).2 =
      .stats (.ok (rows.filter fun row => row.scriptId == some id))

theorem listsRowsOf_of_ne {store : Store} {id : Int} (ready : store.ready = true)
    (fitting : Store.fits id = true) (nonzero : id ≠ 0) : ListsRowsOf store id :=
  ⟨_, congrArg Response.stats (Store.listRuns_none ready),
    congrArg Response.stats (Store.listRuns_some ready fitting nonzero)⟩

/-- Under zero all rows are listed, which is right only if all of them were saved under zero. -/
theorem listsRowsOf_zero_iff {store : Store} {rows : List SavedRun}
    (listed : (perform store (.listStats none)).2 = .stats (.ok rows)) :
    ListsRowsOf store 0 ↔ ∀ row ∈ rows, row.scriptId = some 0 := by
  have all : (perform store (.listStats (some 0))).2 = .stats (.ok rows) :=
    (congrArg Response.stats store.listRuns_zero).trans listed
  constructor
  · rintro ⟨others, listedToo, chosen⟩
    cases listed.symm.trans listedToo
    have same := all.symm.trans chosen
    injection same with same
    injection same with same
    intro row member
    exact eq_of_beq (List.filter_eq_self.mp same.symm row member)
  · intro only
    refine ⟨rows, listed, ?_⟩
    rw [List.filter_eq_self.mpr fun row member => beq_iff_eq.mpr (only row member)]
    exact all

/-- After every session the runs of a script are the rows of the script among the rows of all runs,
in their order, unless the identifier is zero and a run was saved under another one or under
none. -/
theorem listStats_iff (calls : List Call) {id : Int} (fitting : Store.fits id = true) :
    ∃ rows, (perform (serve .opened calls).1 (.listStats none)).2 = .stats (.ok rows) ∧
      (perform (serve .opened calls).1 (.listStats (some id))).2 =
        .stats (.ok (if id = 0 then rows else rows.filter fun row => row.scriptId == some id)) ∧
      (ListsRowsOf (serve .opened calls).1 id ↔
        (id = 0 → ∀ row ∈ rows, row.scriptId = some 0)) := by
  have ready : (serve .opened calls).1.ready = true := ready_serve rfl calls
  generalize (serve .opened calls).1 = store at ready
  have listed : (perform store (.listStats none)).2 =
      .stats (.ok (Store.newestFirst SavedRun.toStamp store.runs)) :=
    congrArg Response.stats (Store.listRuns_none ready)
  refine ⟨_, listed, ?_⟩
  by_cases zero : id = 0
  · subst zero
    refine ⟨?_, ?_⟩
    · rw [if_pos rfl, ← listed]
      exact congrArg Response.stats store.listRuns_zero
    · simpa using listsRowsOf_zero_iff listed
  · refine ⟨?_, ?_⟩
    · rw [if_neg zero]
      exact congrArg Response.stats (Store.listRuns_some ready fitting zero)
    · simpa [zero] using listsRowsOf_of_ne ready fitting zero

/-- A session in which a rejected run is saved under the identifier one and another one under none:
the rows of both. -/
theorem listed_of_rejections :
    let script := "def f".toList
    let calls : List Call := [⟨7, .run script .null (some 1)⟩, ⟨8, .run script .null none⟩]
    ∃ rows, (perform (serve .opened calls).1 (.listStats none)).2 = .stats (.ok rows) ∧
      rows.map (·.scriptId) = [none, some 1] := by
  intro script calls
  have violated : Dialect.violation? script = some .definition := by cbv
  have read : Settings.limits .null = .ok .standard := rfl
  have idle : (Engine.withLimits .standard).isRunning = false := rfl
  have executed := execute_of_run read (Engine.run_of_violation idle violated)
  refine ⟨_, congrArg Response.stats (Store.listRuns_none (ready_serve rfl calls)), ?_⟩
  simp only [calls, serve, perform, run, executed]
  cbv

/-- The run that was saved under the identifier one is the only one that is listed under it. -/
theorem listStats_iff_of_rejections :
    let script := "def f".toList
    let calls : List Call := [⟨7, .run script .null (some 1)⟩, ⟨8, .run script .null none⟩]
    Store.fits 1 = true ∧ ∃ rows,
      (perform (serve .opened calls).1 (.listStats (some 1))).2 = .stats (.ok rows) ∧
      rows.map (·.scriptId) = [some 1] := by
  intro script calls
  have fitting : Store.fits 1 = true := by decide
  obtain ⟨all, listed, scripts⟩ := listed_of_rejections
  obtain ⟨rows, listedToo, chosen, -⟩ := listStats_iff calls fitting
  cases listed.symm.trans listedToo
  refine ⟨fitting, _, chosen, ?_⟩
  have mapped : (all.filter fun row => row.scriptId == some 1).map (·.scriptId) =
      (all.map (·.scriptId)).filter (· == some 1) := by
    rw [List.filter_map]
    rfl
  rw [if_neg (by decide), mapped, scripts]
  rfl

/-- Under the identifier zero the runs of other scripts are listed. -/
theorem not_listStats_of_zero :
    ¬∀ (calls : List Call) (id : Int), Store.fits id = true →
      ListsRowsOf (serve .opened calls).1 id := by
  intro all
  obtain ⟨rows, listed, scripts⟩ := listed_of_rejections
  have under := (listsRowsOf_zero_iff listed).mp (all _ 0 (by decide))
  have one : some 1 ∈ rows.map (·.scriptId) := scripts ▸ by simp
  obtain ⟨row, member, named⟩ := List.mem_map.mp one
  have zero : (some 1 : Option Int) = some 0 := named.symm.trans (under row member)
  cases zero

end Service

end StepScript
