import StepScript.Proofs.Padding.Step

/-!
# Aligned lines

Two scripts are aligned if their lines say the same, one after the other, and each line of one
script stands for the line of the other one that says the same.  A loop is aligned as a whole: what
its block says, wherever it says it, and the lines behind the block.  The second script may be
allowed to hold lines of its own that nothing recognizes, but not where a condition still waits for
its consequence.
-/

namespace StepScript

/-- Which lines of two scripts stand for each other, and whether the second script may hold
unrecognized lines of its own. -/
structure Alignment where
  stands : Nat → Nat → Prop
  extra : Bool

/-- Two lines stand for each other, and for no other lines. -/
def Alignment.Fixes (alignment : Alignment) (line other : Nat) : Prop :=
  ∀ index otherIndex, alignment.stands index otherIndex → (index = line ↔ otherIndex = other)

/-- Lines that say the same and stand for each other.  Where they declare a constant, they stand
for no other lines. -/
structure Line.Aligns (alignment : Alignment) (line other : Line) : Prop where
  text : stripStatement other.text = stripStatement line.text
  stands : alignment.stands line.index other.index
  fixes : ∀ name expression, classify line.text = .ok (.declaration name expression .constWord) →
    alignment.Fixes line.index other.index

def isCondition (line : Text) : Bool :=
  match classify line with
  | .ok (.conditional _) => true
  | _ => false

/-- Aligned lines.  `inBody` tells whether they lie in a round of a loop, and `awaited` whether a
condition in front of them still waits for its consequence. -/
inductive Aligned (alignment : Alignment) :
    (inBody awaited : Bool) → List Line → List Line → Prop
  | nil {inBody awaited : Bool} : Aligned alignment inBody awaited [] []
  | extra {inBody : Bool} {lines others : List Line} {other : Line} {text : Text}
      (allowed : alignment.extra = true)
      (unrecognized : classify other.text = .ok (.unrecognized text))
      (rest : Aligned alignment inBody false lines others) :
      Aligned alignment inBody false lines (other :: others)
  | kept {inBody awaited : Bool} {lines others : List Line} {line other : Line}
      (aligns : line.Aligns alignment other)
      (flat : ∀ header, classify line.text = .ok (.loop header) → inBody = true)
      (rest : Aligned alignment inBody
        (if isBraceOnly line.text then awaited else isCondition line.text) lines others) :
      Aligned alignment inBody awaited (line :: lines) (other :: others)
  | loop {awaited : Bool} {lines others : List Line} {line other : Line} {header : LoopHeader}
      {block otherBlock : Block}
      (classified : classify line.text = .ok (.loop header))
      (classifiedToo : classify other.text = .ok (.loop header))
      (stands : alignment.stands line.index other.index)
      (extracted : Block.extract line lines = .ok block)
      (extractedToo : Block.extract other others = .ok otherBlock)
      (body : Aligned alignment true false block.body otherBlock.body)
      (after : Aligned alignment false false block.after otherBlock.after) :
      Aligned alignment false awaited (line :: lines) (other :: others)
  | unclosed {awaited : Bool} {lines others : List Line} {line other : Line} {header : LoopHeader}
      {cause otherCause : Fault}
      (classified : classify line.text = .ok (.loop header))
      (classifiedToo : classify other.text = .ok (.loop header))
      (stands : alignment.stands line.index other.index)
      (unclosed : Block.extract line lines = .error cause)
      (unclosedToo : Block.extract other others = .error otherCause)
      (alike : cause.Alike otherCause) :
      Aligned alignment false awaited (line :: lines) (other :: others)

theorem essence_of_isBraceOnly {line : Text} (alone : isBraceOnly line = true) :
    (classify line).map Statement.essence = .ok .blank ∨
      (classify line).map Statement.essence = .ok (.unrecognized []) := by
  rw [classify_essence]
  unfold isBraceOnly at alone
  split at alone
  next nothing => exact .inl (by rw [nothing]; rfl)
  next char single =>
    obtain rfl | rfl : char = '\x7b' ∨ char = '\x7d' := by simpa using alone
    · exact .inr (by rw [single]; rfl)
    · exact .inr (by rw [single]; rfl)
  next => cases alone

theorem isBraceOnly_of_conditional {line condition : Text}
    (classified : classify line = .ok (.conditional condition)) : isBraceOnly line = false := by
  apply Bool.eq_false_of_not_eq_true
  intro alone
  cases essence_of_isBraceOnly alone with
  | inl said | inr said => simp [classified, Except.map, Statement.essence] at said

theorem isBraceOnly_of_loop {line : Text} {header : LoopHeader}
    (classified : classify line = .ok (.loop header)) : isBraceOnly line = false := by
  apply Bool.eq_false_of_not_eq_true
  intro alone
  cases essence_of_isBraceOnly alone with
  | inl said | inr said => simp [classified, Except.map, Statement.essence] at said

theorem isCondition_of_conditional {line condition : Text}
    (classified : classify line = .ok (.conditional condition)) : isCondition line = true := by
  rw [isCondition, classified]

namespace Line.Aligns

variable {alignment : Alignment} {line other : Line}

/-- Aligned lines say the same, or cannot be read for the same reason. -/
theorem classify (aligns : line.Aligns alignment other) :
    Agree (fun found otherFound : Statement => otherFound.essence = found.essence)
      (classify line.text) (classify other.text) :=
  have echoes : line.Echoes (fun _ => other.index) other := ⟨aligns.text, rfl⟩
  echoes.classify

end Line.Aligns

namespace Aligned

variable {alignment : Alignment} {inBody awaited : Bool} {lines others : List Line}

/-- What is aligned while a condition waits is aligned in any case. -/
theorem relax (aligned : Aligned alignment inBody awaited lines others) :
    Aligned alignment inBody false lines others := by
  induction aligned with
  | nil => exact .nil
  | extra allowed unrecognized rest => exact .extra allowed unrecognized rest
  | @kept inBody awaited lines others line other aligns flat rest ih =>
    apply Aligned.kept aligns flat
    cases alone : isBraceOnly line.text with
    | true => exact ih
    | false =>
      rw [alone] at rest
      exact rest
  | loop classified classifiedToo stands extracted extractedToo body after =>
    exact .loop classified classifiedToo stands extracted extractedToo body after
  | unclosed classified classifiedToo stands unclosed unclosedToo alike =>
    exact .unclosed classified classifiedToo stands unclosed unclosedToo alike

/-- Where a condition waits, its consequences are aligned as well. -/
theorem dropBraces (aligned : Aligned alignment inBody true lines others) :
    Aligned alignment inBody true (lines.dropWhile fun line => isBraceOnly line.text)
      (others.dropWhile fun line => isBraceOnly line.text) := by
  generalize waits : true = awaited at aligned ⊢
  induction aligned with
  | nil => exact .nil
  | extra => cases waits
  | @kept inBody awaited lines others line other aligns flat rest ih =>
    rw [List.dropWhile_cons, List.dropWhile_cons, isBraceOnly_of_strip_eq aligns.text]
    cases alone : isBraceOnly line.text with
    | true =>
      rw [alone] at ih
      exact ih waits
    | false =>
      exact .kept aligns flat rest
  | @loop awaited lines others line other header block otherBlock classified classifiedToo stands
      extracted extractedToo body after =>
    rw [List.dropWhile_cons_of_neg (by simp [isBraceOnly_of_loop classified]),
      List.dropWhile_cons_of_neg (by simp [isBraceOnly_of_loop classifiedToo])]
    exact .loop classified classifiedToo stands extracted extractedToo body after
  | @unclosed awaited lines others line other header cause otherCause classified classifiedToo
      stands unclosed unclosedToo alike =>
    rw [List.dropWhile_cons_of_neg (by simp [isBraceOnly_of_loop classified]),
      List.dropWhile_cons_of_neg (by simp [isBraceOnly_of_loop classifiedToo])]
    exact .unclosed classified classifiedToo stands unclosed unclosedToo alike

end Aligned

end StepScript
