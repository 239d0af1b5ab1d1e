import Mathlib
import StepScript.Store

/-!
# Rows in the order of their addition

Rows are stamped with identifiers that are counted and with seconds that never go back.  To list the
newest first is then to list the rows backwards, and an identifier leads to one row only.  A request
of the store that succeeds has passed all checks and adds one row with the next stamp.
-/

namespace StepScript

namespace Stamp

variable {clock later : Nat} {stamps : List Stamp} {stamp : Stamp}

theorem precedes_iff {other : Stamp} : stamp.precedes other = true ↔
    other.savedAt < stamp.savedAt ∨ other.savedAt = stamp.savedAt ∧ other.id ≤ stamp.id := by
  simp [precedes]

/-- The next identifier is larger than all that are in use. -/
theorem lt_nextId (member : stamp ∈ stamps) : stamp.id < nextId stamps := by
  unfold nextId
  induction stamps with
  | nil => cases member
  | cons first stamps ih =>
    rw [List.map_cons, List.foldr_cons]
    rcases List.mem_cons.mp member with rfl | behind
    · omega
    · have bound := ih behind
      omega

theorem nextId_concat (larger : nextId stamps ≤ stamp.id) :
    nextId (stamps ++ [stamp]) = stamp.id + 1 := by
  unfold nextId at larger ⊢
  induction stamps with
  | nil => simp
  | cons first stamps ih =>
    rw [List.map_cons, List.foldr_cons] at larger
    rw [List.cons_append, List.map_cons, List.foldr_cons]
    have behind := ih (by omega)
    omega

/-- Stamps in the order in which they were given up to a second: time never goes back, and the
identifiers are counted. -/
structure Ascending (clock : Nat) (stamps : List Stamp) : Prop where
  ordered : stamps.Pairwise fun stamp other =>
    stamp.savedAt ≤ other.savedAt ∧ stamp.id < other.id
  past : ∀ stamp ∈ stamps, stamp.savedAt ≤ clock
  fits : ∀ stamp ∈ stamps, Store.fits stamp.id = true
  counted : nextId stamps = stamps.length + 1

namespace Ascending

theorem nil (clock : Nat) : Ascending clock [] := by
  constructor <;> simp [nextId]

/-- Time goes on without a new stamp. -/
theorem mono (ascending : Ascending clock stamps) (le : clock ≤ later) :
    Ascending later stamps where
  ordered := ascending.ordered
  past := fun stamp member => (ascending.past stamp member).trans le
  fits := ascending.fits
  counted := ascending.counted

theorem nextStamp_eq {store : Store} (ascending : Ascending store.clock stamps) :
    store.nextStamp stamps =
      if Store.fits (stamps.length + 1 : Nat) then .ok ⟨stamps.length + 1, store.clock⟩
      else .error .full := by
  rw [← ascending.counted]
  rfl

/-- The stamp of the next row comes behind all others. -/
theorem concat {store : Store} (ascending : Ascending store.clock stamps)
    (given : store.nextStamp stamps = .ok stamp) :
    Ascending store.clock (stamps ++ [stamp]) := by
  rw [ascending.nextStamp_eq] at given
  split at given
  next fits =>
    rw [← Except.ok.inj given]
    constructor
    · rw [List.pairwise_append]
      refine ⟨ascending.ordered, List.pairwise_singleton _ _, ?_⟩
      intro earlier member other found
      rw [List.mem_singleton.mp found]
      exact ⟨ascending.past earlier member, ascending.counted ▸ lt_nextId member⟩
    · rw [List.forall_mem_append]
      exact ⟨ascending.past, List.forall_mem_singleton.mpr le_rfl⟩
    · rw [List.forall_mem_append]
      exact ⟨ascending.fits, List.forall_mem_singleton.mpr fits⟩
    · rw [nextId_concat ascending.counted.le, List.length_append, List.length_singleton]
  next => cases given

end Ascending

end Stamp

namespace Store

variable {Row : Type} {stamp : Row → Stamp} {rows : List Row} {clock : Nat}

theorem eq_of_id_eq (ascending : Stamp.Ascending clock (rows.map stamp)) {row other : Row}
    (member : row ∈ rows) (found : other ∈ rows) (same : (stamp row).id = (stamp other).id) :
    row = other := by
  have distinct : (rows.map fun row => (stamp row).id).Nodup := by
    rw [List.Nodup, List.pairwise_map]
    exact (List.pairwise_map.mp ascending.ordered).imp fun before => before.2.ne
  exact List.inj_on_of_nodup_map distinct member found same

theorem newestFirst_eq_reverse (ascending : Stamp.Ascending clock (rows.map stamp)) :
    newestFirst stamp rows = rows.reverse := by
  have ordered := List.pairwise_map.mp ascending.ordered
  have sorted : (newestFirst stamp rows).Pairwise fun row other =>
      (stamp row).precedes (stamp other) = true := by
    apply List.pairwise_mergeSort
    · intro first second third
      simp only [Stamp.precedes_iff]
      omega
    · intro first second
      rw [Bool.or_eq_true, Stamp.precedes_iff, Stamp.precedes_iff]
      omega
  have backwards : rows.reverse.Pairwise fun row other =>
      (stamp row).precedes (stamp other) = true := by
    rw [List.pairwise_reverse]
    apply ordered.imp
    intro row other before
    rw [Stamp.precedes_iff]
    omega
  have same : (newestFirst stamp rows).Perm rows := List.mergeSort_perm rows _
  apply (same.trans (List.reverse_perm rows).symm).eq_of_pairwise _ sorted backwards
  intro row other member found before behind
  rw [Stamp.precedes_iff] at before behind
  have sameId : (stamp row).id = (stamp other).id := by omega
  exact eq_of_id_eq ascending (same.subset member) (List.mem_reverse.mp found) sameId

theorem find?_eq_some (ascending : Stamp.Ascending clock (rows.map stamp)) {row : Row}
    (member : row ∈ rows) :
    rows.find? (fun other => ((stamp other).id : Int) == (stamp row).id) = some row := by
  cases found : rows.find? fun other => ((stamp other).id : Int) == (stamp row).id with
  | none => simpa using List.find?_eq_none.mp found row member
  | some other =>
    have sameId : (stamp other).id = (stamp row).id := by simpa using List.find?_some found
    rw [eq_of_id_eq ascending (List.mem_of_find?_eq_some found) member sameId]

end Store

/-! ## What a successful request of the store has done -/

namespace Store

variable {store extended : Store} {id : Nat}

theorem bind_ok {α β : Type} {first : Except StoreFault α} {next : α → Except StoreFault β}
    {result : β} (done : (first >>= next) = .ok result) :
    ∃ value, first = .ok value ∧ next value = .ok result := by
  cases first with
  | error cause => cases done
  | ok value => exact ⟨value, rfl, done⟩

theorem fits_of_check {table : Table} {integers : List Int}
    (checked : store.check table integers = .ok ()) :
    ∀ integer ∈ integers, fits integer = true := by
  unfold check at checked
  split at checked
  next => cases checked
  next =>
    split at checked
    next all => exact List.all_eq_true.mp all
    next => cases checked

theorem saveScript_ok {title code : Text}
    (saved : store.saveScript title code = .ok (extended, id)) :
    ∃ stamp, store.nextStamp (store.scripts.map SavedScript.toStamp) = .ok stamp ∧
      extended = { store with scripts := store.scripts ++ [⟨stamp, title, code⟩] } ∧
      id = stamp.id := by
  rcases bind_ok saved with ⟨_, _, stamped⟩
  rcases bind_ok stamped with ⟨stamp, given, same⟩
  cases same
  exact ⟨stamp, given, rfl, rfl⟩

theorem saveRun_ok {scriptId : Option Int} {status : Text} {snapshots : Int} {report : Json}
    (saved : store.saveRun scriptId status snapshots report = .ok (extended, id)) :
    report.isWritable = true ∧ store.check .runs (snapshots :: scriptId.toList) = .ok () ∧
    ∃ stamp, store.nextStamp (store.runs.map SavedRun.toStamp) = .ok stamp ∧
      extended = { store with
        runs := store.runs ++ [⟨stamp, scriptId, status, snapshots,
          if report.isVoid then none else some report.write⟩] } := by
  unfold saveRun at saved
  split at saved
  next => cases saved
  next written =>
    rcases bind_ok saved with ⟨_, checked, stamped⟩
    rcases bind_ok stamped with ⟨stamp, given, same⟩
    cases same
    exact ⟨by simpa using written, checked, stamp, given, rfl⟩

end Store

end StepScript
