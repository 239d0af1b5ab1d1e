import Mathlib
import StepScript.Run.Machine
import StepScript.Statement.Classify

/-!
# Texts that break a call

Two kinds of text end a call without an outcome: a loop header whose step stands behind an
information separator, and an array literal with an integer beyond the doubles.  Here both are
described on the text alone, and shown to be the only ones.
-/

namespace StepScript

/-! ## Loop headers -/

/-- Whether a character is one of the four information separators.  They count as blanks, but no
number is read behind them. -/
def Text.isSeparator (char : Char) : Bool :=
  28 ≤ char.toNat && char.toNat ≤ 31

/-- The line is a loop header with an information separator in front of the digits of its step. -/
def UnreadableHeader (line : Text) : Prop :=
  ∃ parts amount numeral, Pattern.header? (stripStatement (Text.trim line)) = some parts ∧
    parts.stepped = parts.counter ∧ parts.increment.amount = some (amount, numeral) ∧
    amount.any Text.isSeparator = true

namespace Pattern

theorem head?_of_header? {text : Text} {parts : HeaderParts} (found : header? text = some parts) :
    text.head? = some 'f' := by
  unfold header? at found
  cases keyword : Text.after? ['f', 'o', 'r'] text with
  | none => simp [keyword] at found
  | some rest => rw [Text.eq_append_of_after? keyword]; rfl

/-- What begins with the letter of loop headers is no declaration. -/
theorem declaration?_eq_none {text : Text} (head : text.head? = some 'f') :
    declaration? text = none := by
  cases text with
  | nil => simp at head
  | cons char rest =>
    obtain rfl : char = 'f' := by simpa using head
    rfl

theorem step_error_iff (increment : Increment) :
    (∃ cause, increment.step = .error cause) ↔
      ∃ amount numeral, increment.amount = some (amount, numeral) ∧
        amount.any Text.isSeparator = true := by
  unfold Increment.step
  cases amounts : increment.amount with
  | none => simp
  | some written =>
    rcases written with ⟨amount, numeral⟩
    have same : (amount.any fun char => 28 ≤ char.toNat && char.toNat ≤ 31) =
        amount.any Text.isSeparator := rfl
    simp only [same]
    split
    next separated => simpa using separated
    next plain => simpa using plain

theorem loop?_error_iff {text : Text} :
    (∃ cause, loop? text = .error cause) ↔
      ∃ parts, header? text = some parts ∧ parts.stepped = parts.counter ∧
        ∃ cause, parts.increment.step = .error cause := by
  unfold loop?
  cases found : header? text with
  | none => simp
  | some parts =>
    by_cases same : parts.stepped = parts.counter
    · cases stepped : parts.increment.step <;>
        simp [same, stepped, bind, Except.bind, pure, Except.pure]
    · simp [same]

end Pattern

theorem head?_of_loop?_error {text : Text} {cause : Breakdown}
    (error : Pattern.loop? text = .error cause) : text.head? = some 'f' := by
  rcases Pattern.loop?_error_iff.mp ⟨cause, error⟩ with ⟨parts, found, _⟩
  exact Pattern.head?_of_header? found

/-- A line breaks the call exactly if what is left of it without comment and semicolons does. -/
theorem classify_eq_error_iff {line : Text} {cause : Breakdown} :
    classify line = .error cause ↔
      Pattern.loop? (stripStatement (Text.trim line)) = .error cause := by
  unfold classify
  generalize Text.trim line = raw
  have unsaid : stripStatement raw = [] → Pattern.loop? (stripStatement raw) ≠ .error cause := by
    intro empty error
    have head := head?_of_loop?_error error
    simp [empty] at head
  dsimp only
  split
  next => exact ⟨nofun, fun error => absurd error (unsaid rfl)⟩
  next comment => exact ⟨nofun, fun error => absurd error (unsaid rfl)⟩
  next =>
    split
    next empty => exact ⟨nofun, fun error => absurd error (unsaid (List.isEmpty_iff.mp empty))⟩
    next =>
      constructor
      · intro error
        split at error
        next => simp at error
        next =>
          split at error
          next unreadable =>
            cases Except.error.inj error
            exact unreadable
          next => simp at error
          next => simp at error
      · intro error
        rw [Pattern.declaration?_eq_none (head?_of_loop?_error error), error]

/-- Lines that break the call are loop headers whose step cannot be read. -/
theorem classify_error_iff {line : Text} :
    (∃ cause, classify line = .error cause) ↔ UnreadableHeader line := by
  simp only [classify_eq_error_iff, Pattern.loop?_error_iff, Pattern.step_error_iff]
  constructor
  · rintro ⟨parts, found, same, amount, numeral, written, separated⟩
    exact ⟨parts, amount, numeral, found, same, written, separated⟩
  · rintro ⟨parts, amount, numeral, found, same, written, separated⟩
    exact ⟨parts, found, same, amount, numeral, written, separated⟩

/-! ## Array literals -/

/-- The text is an array of numbers, and one of them is an integer beyond the doubles. -/
def OversizedLiteral (expression : Text) : Prop :=
  ∃ items value, (stripStatement expression).head? = some '[' ∧
    (stripStatement expression).getLast? = some ']' ∧
    Json.read? (stripStatement expression) = some (.array items) ∧
    items.all Literal.isNumber = true ∧ Json.integer value ∈ items ∧
    Number.ofInteger? value = none

namespace Literal

theorem map_eq_error {α β : Type} {image : α → β} {result : Except Failure α} {failure : Failure} :
    result.map image = .error failure ↔ result = .error failure := by
  cases result <;> simp [Except.map]

/-- The cells of an array break the call exactly if one of them does. -/
theorem cells_breakdown_iff {items : List Json} :
    (∃ cause, cells items = .error (.breakdown cause)) ↔
      ∃ value, Json.integer value ∈ items ∧ Number.ofInteger? value = none := by
  induction items with
  | nil => simp [cells]
  | cons item rest ih =>
    cases item with
    | integer value =>
      cases number : Number.ofInteger? value with
      | none =>
        have broken : ∃ cause, cells (.integer value :: rest) = .error (.breakdown cause) :=
          ⟨.integerTooLarge, by rw [cells, number]⟩
        exact ⟨fun _ => ⟨value, List.mem_cons_self, number⟩, fun _ => broken⟩
      | some rounded =>
        simp only [cells, number, map_eq_error, ih, List.mem_cons]
        constructor
        · rintro ⟨found, member, beyond⟩
          exact ⟨found, .inr member, beyond⟩
        · rintro ⟨found, equal | member, beyond⟩
          · cases Json.integer.inj equal
            simp [number] at beyond
          · exact ⟨found, member, beyond⟩
    | double value => simp [cells, map_eq_error, ih]
    | _ => simp [cells, ih]

theorem readArray_breakdown_iff {text : Text} :
    (∃ cause, readArray text = .error (.breakdown cause)) ↔
      ∃ items value, Json.read? text = some (.array items) ∧ items.all isNumber = true ∧
        Json.integer value ∈ items ∧ Number.ofInteger? value = none := by
  unfold readArray
  split
  next items read =>
    split
    next numbers =>
      simp only [map_eq_error, cells_breakdown_iff]
      constructor
      · rintro ⟨value, member, beyond⟩
        exact ⟨items, value, read, numbers, member, beyond⟩
      · rintro ⟨found, value, same, _, member, beyond⟩
        cases Json.array.inj (Option.some.inj (read.symm.trans same))
        exact ⟨value, member, beyond⟩
    next other =>
      constructor
      · simp
      · rintro ⟨found, value, same, numbers, _⟩
        cases Json.array.inj (Option.some.inj (read.symm.trans same))
        exact absurd numbers other
  next json other read =>
    constructor
    · simp
    · rintro ⟨items, value, found, _⟩
      exact absurd (Option.some.inj (read.symm.trans found)) (other items)
  next read => simp [read]

theorem numeral_eq_none {text : Text} (head : text.head? = some '[') :
    Numeral.read? text = none := by
  cases text with
  | nil => simp at head
  | cons char rest =>
    obtain rfl : char = '[' := by simpa using head
    rfl

/-- A literal breaks the call exactly if it is an array with an integer beyond the doubles. -/
theorem read?_breakdown_iff {expression : Text} :
    (∃ cause, read? expression = .error (.breakdown cause)) ↔ OversizedLiteral expression := by
  unfold read? OversizedLiteral
  generalize stripStatement expression = text
  dsimp only
  split
  next numeral read =>
    constructor
    · simp
    · rintro ⟨items, value, head, _⟩
      simp [numeral_eq_none head] at read
  next =>
    split
    next brackets => simp [map_eq_error, readArray_breakdown_iff, brackets]
    next other =>
      constructor
      · simp
      · rintro ⟨items, value, head, last, _⟩
        exact absurd ⟨head, last⟩ other

instance : DecidablePred OversizedLiteral := fun expression =>
  match read : read? expression with
  | .error (.breakdown cause) => .isTrue (read?_breakdown_iff.mp ⟨cause, read⟩)
  | .error (.fault _) | .ok _ => .isFalse fun oversized => by
      rcases read?_breakdown_iff.mpr oversized with ⟨cause, broken⟩
      simp [read] at broken

end Literal

/-! ## Declarations -/

namespace Machine

theorem mapError_fault_ne {α : Type} {result : Except Fault α} {cause : Breakdown} :
    result.mapError Failure.fault ≠ .error (.breakdown cause) := by
  cases result <;> simp [Except.mapError]

theorem declaredValue_breakdown_iff {expression : Text} {environment : Environment} :
    (∃ cause, declaredValue expression environment = .error (.breakdown cause)) ↔
      OversizedLiteral expression := by
  rw [← Literal.read?_breakdown_iff, declaredValue]
  cases Literal.read? expression with
  | error failure => simp
  | ok value => cases value <;> simp [mapError_fault_ne]

/-- A declaration breaks the call exactly if its value is an oversized literal. -/
theorem declare_breakdown_iff {machine : Machine} {name expression : Text} {keyword : Keyword} :
    (∃ cause, machine.declare name expression keyword = .error (.breakdown cause)) ↔
      OversizedLiteral expression := by
  rw [← declaredValue_breakdown_iff, declare]
  cases declaredValue expression machine.environment with
  | error failure => simp
  | ok value => simp [mapError_fault_ne]

end Machine

end StepScript
