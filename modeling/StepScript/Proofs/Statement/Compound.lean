import StepScript.Proofs.Expression.Composition
import StepScript.Proofs.Run.Operation
import StepScript.Proofs.Statement.Recognition

/-!
# Compound assignments

A compound assignment is rewritten as a text: the old value, the operator and the right side in
parentheses.  Whatever the right side is, the rewritten text means what the operator does with the
two values (`step_compound`).
-/

namespace StepScript

open StepScript.Lexer StepScript.Parser StepScript.Expr

/-! ## Right sides -/

/-- A text of one line that has a value by itself.  Brackets are nested at most sixty deep, and the
nodes of its tree leave room for two more. -/
structure Operand (environment : Environment) (text : Text) (value : Value) : Prop where
  trimmed : Text.trim text = text
  oneLine : OneLine text
  uncommented : ¬['/', '/'] <:+: text
  unended : text.getLast? ≠ some ';'
  brackets : nesting ((scan text).tokens.map Token.kind) ≤ 60
  nodes : ∀ tree, parseExpression text = .ok tree → tree.depth + 2 ≤ nestingLimit
  evaluated : evaluateText text environment = .ok value

namespace Operand

variable {environment : Environment} {text : Text} {value : Value}

theorem spoken (operand : Operand environment text value) : text ≠ [] := by
  rintro rfl
  cases operand.evaluated

/-- An operand is a text that can stand on the right side of an assignment. -/
def expression (operand : Operand environment text value) : Form.Expression where
  text
  spoken := operand.spoken
  trimmed := operand.trimmed
  oneLine member := (operand.oneLine '\n' member).2.1 rfl
  uncommented := operand.uncommented
  unended := operand.unended

theorem stripStatement_eq (operand : Operand environment text value) :
    stripStatement text = text :=
  Form.stripStatement_eq (Text.trimStart_of_trim operand.trimmed)
    (.of_no_marker operand.uncommented) (operand.expression.dropEnd_append [])

/-- An operand is a row of tokens that derive a tree with its value, also where faults would quote
another text. -/
theorem exists_row (operand : Operand environment text value) :
    ∃ kinds final tree, Row [] text kinds final ∧ Derives .expression kinds tree ∧
      nesting kinds ≤ 60 ∧ parseExpression text = .ok tree ∧
      tree.value? environment = some value := by
  rcases exists_tree_of_evaluateText operand.evaluated with ⟨tree, read, evaluated⟩
  rw [operand.stripStatement_eq] at read evaluated
  have solid : ∀ char ∈ text.head?, char ∉ Lexer.blanks := by
    rcases operand.expression.toPart.head with ⟨char, rest, same, visible⟩
    have same : text = char :: rest := same
    rw [same]
    rintro _ ⟨⟩ member
    have hidden : ∀ blank ∈ Lexer.blanks, Text.isBlank blank = true := by
      simp [Lexer.blanks, Text.isBlank]
    simp [hidden char member] at visible
  rcases row_of_parseExpression operand.oneLine solid read (Tree.allowed_of_evaluate evaluated)
    with ⟨kinds, final, row, derives, bound⟩
  refine ⟨kinds, final, tree, row, derives, bound.trans operand.brackets, read, ?_⟩
  have same : Agrees (tree.evaluate environment text nestingLimit) (tree.value? environment) :=
    Tree.agrees_value? rfl (Tree.depth_le_of_evaluate evaluated)
  rw [← same.toOption_eq, evaluated]
  rfl

theorem exists_tree (operand : Operand environment text value) :
    ∃ tree : Tree, Spells .expression 60 text tree ∧ '\x00' ∉ text ∧
      tree.depth + 2 ≤ nestingLimit ∧ tree.value? environment = some value := by
  rcases operand.exists_row with ⟨kinds, final, tree, row, derives, bound, read, evaluated⟩
  exact ⟨tree, .of_row row derives bound, nul_notMem_of_parseExpression read,
    operand.nodes tree read, evaluated⟩

end Operand

/-! ## Rewritten texts -/

/-- An identifier is a name that a statement can be written with. -/
def Expr.Identifier.toName (name : Identifier) : Form.Name where
  first := name.first
  rest := name.rest
  opens := name.opens
  continues char member := by
    have small : char.toNat < 128 := Identifier.toNat_lt_of_mem (List.mem_cons_of_mem _ member)
    rcases name.continues char member with letter | same
    · simp [Text.isWord, small, letter]
    · simp [Text.isWord, same]

@[simp] theorem Expr.Identifier.text_toName (name : Identifier) : name.toName.text = name.text :=
  rfl

namespace Form.Operator

def operation : Operator → Operation
  | .plus => .plus
  | .minus => .minus
  | .times => .times
  | .over => .over

theorem symbol_operation (operator : Operator) : operator.operation.symbol = [operator.sign] := by
  cases operator <;> rfl

/-- The number that an operator makes of an old value and another one; none if there is no old value
or one of the two counts as no number. -/
def combine? (operator : Operator) (old : Option Value) (value : Value) : Option Float := do
  let left ← (← old).numeric?
  let right ← value.numeric?
  return operator.operation.apply left right

end Form.Operator

/-- A binary operation combines the values of its operands. -/
theorem Tree.agrees_binary (operator : Form.Operator) (environment : Environment) (span : Span)
    {left right : Tree} {value : Value}
    (found : right.value? environment = some value) :
    (Tree.binary span operator.operation.operator left right).value? environment =
      (operator.combine? (left.value? environment) value).map .number := by
  have behind := Tree.evaluate_of_value? found (Nat.le_max_right left.depth right.depth)
  rw [← Tree.toOption_evaluate (Nat.le_max_left left.depth right.depth), Tree.value?, Tree.depth,
    Tree.evaluate, behind]
  cases left.evaluate environment [] (max left.depth right.depth) with
  | error fault => rfl
  | ok old =>
    cases old with
    | array cells => rfl
    | _ => cases value <;> cases operator <;> rfl

section Rewritten

variable {environment : Environment} {text target : Text} {value : Value} {tree : Tree}

/-- What a compound assignment evaluates: its target, the operator, and the right side in
parentheses. -/
def rewritten (target : Text) (operator : Form.Operator) (text : Text) : Text :=
  target ++ ' ' :: operator.sign :: ' ' :: '(' :: text ++ [')']

/-- The rewritten text means the operation, whatever the right side is. -/
theorem Operand.agrees_rewritten (operand : Operand environment text value)
    (operator : Form.Operator) (spells : Spells .primary 61 target tree)
    (begins : ∃ (name : Identifier) (rest : Text), target = name.text ++ rest)
    (uncommented : Text.Uncommented target) (plain : '\x00' ∉ target)
    (shallow : tree.depth + 1 ≤ nestingLimit) :
    Agrees (evaluateText (rewritten target operator text) environment)
      ((operator.combine? (tree.value? environment) value).map .number) := by
  rcases operand.exists_tree with ⟨right, spellsRight, plainRight, shallowRight, found⟩
  rw [← Tree.agrees_binary operator environment default found]
  have grouped : Spells .atom 61 ('(' :: text ++ [')']) right :=
    (spellsRight.mono (by decide) le_rfl).group
  have tight : operator.operation.level.index ≤ Level.primary.index := by
    cases operator <;> decide
  have tighter : operator.operation.level.inner.index ≤ Level.atom.index := by
    cases operator <;> decide
  have loose : Level.expression.index ≤ operator.operation.level.index := by
    cases operator <;> decide
  have joined := ((spells.mono tight le_rfl).binary operator.operation
    (grouped.mono tighter le_rfl)).mono loose le_rfl
  have same : target ++ ' ' :: (operator.operation.symbol ++ ' ' :: ('(' :: text ++ [')'])) =
      rewritten target operator text := by
    simp [rewritten, operator.symbol_operation]
  rw [same] at joined
  rcases begins with ⟨name, rest, rfl⟩
  refine joined.agrees (by decide) ?_ ?_ (by simp [rewritten]) ?_ ?_ environment
  · rintro _ ⟨⟩
    exact (plain_of_isWord (Identifier.isWord_of_mem name.first_mem)).1
  · have written : Text.Uncommented text := .of_no_marker operand.uncommented
    have inside : Text.Uncommented (text ++ [')']) := by
      simpa using written.join ')' [] .nil (by simp)
    have signed : Text.Uncommented (' ' :: '(' :: (text ++ [')'])) := by
      simpa using Text.Uncommented.nil.join ' ' ['('] inside (by simp)
    have behind : Text.Uncommented (operator.sign :: ' ' :: '(' :: (text ++ [')'])) :=
      signed.cons_cons (by decide)
    have whole : Text.Uncommented (rewritten (name.text ++ rest) operator text) := by
      simpa [rewritten] using uncommented.join ' ' [] behind (by simp)
    refine Form.stripStatement_eq ?_ whole ?_
    · have visible := isBlank_of_isSolid (Identifier.isSolid_of_mem name.first_mem)
      exact List.dropWhile_cons_of_neg (by simp [visible])
    · have closed := Text.dropEnd_concat (show Text.isPadding ')' = false by decide)
        (name.text ++ rest ++ ' ' :: operator.sign :: ' ' :: '(' :: text)
      simpa [rewritten] using closed
  · have signed : '\x00' ≠ operator.sign := by cases operator <;> decide
    simpa [rewritten, signed, plainRight] using plain
  · simp only [Tree.depth]
    omega

/-- The rewritten text of an assignment to a variable, whose name stands for no truth value. -/
theorem Operand.agrees_variable (operand : Operand environment text value)
    (operator : Form.Operator) (name : Identifier) (noTrue : name.text ≠ "true".toList)
    (noFalse : name.text ≠ "false".toList) :
    Agrees (evaluateText (rewritten name.text operator text) environment)
      ((operator.combine? (Environment.find? name.text environment) value).map .number) := by
  have spells : Spells .primary 61 name.text (.name default name.text) :=
    (Spells.name name).mono (by decide) (by decide)
  have plain : '\x00' ∉ name.text := fun member =>
    absurd (Identifier.isSolid_of_mem member) (by decide)
  have found : (Tree.name default name.text).value? environment =
      Environment.find? name.text environment := by
    rw [Tree.value?, Tree.depth, Tree.evaluate, Tree.lookUp]
    cases Environment.find? name.text environment with
    | some value => rfl
    | none =>
      rw [if_neg noTrue, if_neg noFalse]
      rfl
  rw [← found]
  exact operand.agrees_rewritten operator spells ⟨name, [], by simp⟩ name.toName.uncommented plain
    (by simp [Tree.depth, nestingLimit])

/-- The cell of an array that an index denotes. -/
def place? (cells : List Value) (position : Value) : Option Nat := do
  (Number.natural? (← position.number?)).filter (· < cells.length)

theorem position_agrees (cells : List Value) (position : Value) (part : Text) :
    Agrees (position.position cells.length part) (place? cells position) := by
  cases position with
  | boolean truth => exact .error _ rfl
  | array others => exact .error _ rfl
  | number index =>
    change Agrees _ ((Number.natural? index).filter (· < cells.length))
    simp only [Value.position]
    cases (Number.natural? index).filter (· < cells.length) with
    | none => exact .error _ rfl
    | some place => exact .ok _

theorem Operand.exists_cell {index : Text} {position : Value}
    (indexed : Operand environment index position) (name : Identifier) {cells : List Value}
    (array : Environment.find? name.text environment = some (.array cells)) :
    ∃ tree : Tree, Spells .primary 61 (name.text ++ '[' :: index ++ [']']) tree ∧
      Text.Uncommented (name.text ++ '[' :: index ++ [']']) ∧
      '\x00' ∉ name.text ++ '[' :: index ++ [']'] ∧ tree.depth + 1 ≤ nestingLimit ∧
      tree.value? environment = (do cells[← place? cells position]?) := by
  rcases indexed.exists_tree with ⟨tree, spells, plain, shallow, evaluated⟩
  have target : Spells .primary 61 (name.text ++ '[' :: index ++ [']'])
      (.subscript default (.name default name.text) tree) :=
    (spells.mono (by decide) le_rfl).cell name
  have noSlice : tree.isSlice = false := by
    rcases spells with ⟨_, _, derives, _⟩
    exact derives.isSlice_eq_false
  refine ⟨_, target, ?_, ?_, ?_, ?_⟩
  · have written : Text.Uncommented index := .of_no_marker indexed.uncommented
    have inside := written.join ']' [] .nil (by simp)
    simpa using name.toName.uncommented.join '[' [] inside (by simp)
  · have named : '\x00' ∉ name.text := fun member =>
      absurd (Identifier.isSolid_of_mem member) (by decide)
    simpa [named] using plain
  · simp only [Tree.depth, nestingLimit] at shallow ⊢
    omega
  · have named : (Tree.name default name.text).value? environment = some (.array cells) := by
      rw [Tree.value?, Tree.depth, Tree.evaluate, Tree.lookUp, array]
      rfl
    have looked := Tree.evaluate_of_value? named (Nat.le_max_left 1 tree.depth)
    have inside := Tree.evaluate_of_value? evaluated (Nat.le_max_right 1 tree.depth)
    rw [Tree.value?, Tree.depth, Tree.depth, Tree.evaluate, if_neg (by simp [noSlice]), looked,
      inside]
    refine ((position_agrees cells position _).bind fun place => ?_).toOption_eq
    cases cells[place]? with
    | some cell => exact .ok cell
    | none => exact .error _ rfl

/-- The rewritten text of an assignment to a cell. -/
theorem Operand.agrees_cell (operand : Operand environment text value) (operator : Form.Operator)
    (name : Identifier) {index : Text} {position : Value}
    (indexed : Operand environment index position) {cells : List Value}
    (array : Environment.find? name.text environment = some (.array cells)) :
    Agrees (evaluateText (rewritten (name.text ++ '[' :: index ++ [']']) operator text) environment)
      ((operator.combine? (do cells[← place? cells position]?) value).map .number) := by
  rcases indexed.exists_cell name array with ⟨tree, spells, uncommented, plain, shallow, found⟩
  rw [← found]
  exact operand.agrees_rewritten operator spells ⟨name, '[' :: index ++ [']'], by simp⟩ uncommented
    plain shallow

end Rewritten

/-! ## Where an index ends -/

section Brackets

variable {text : Text} {kinds : List TokenKind} {closers final : List Char}

/-- No row of tokens that expressions are made of begins with the operator of an assignment. -/
theorem Lexer.Row.assigns_eq_false (row : Row closers text kinds final)
    (plain : ∀ kind ∈ kinds, kind.isPlain = true) :
    Form.assigns (Text.trimStart text) = false := by
  induction row with
  | done closers => rfl
  | @blank closers final char rest kinds hidden more ih =>
    have blank : ∀ blank ∈ Lexer.blanks, Text.isBlank blank = true := by
      simp [Lexer.blanks, Text.isBlank]
    rw [Text.trimStart, List.dropWhile_cons_of_pos (blank char hidden)]
    exact ih plain
  | @token closers middle final char rest kind kinds count visible found shifts more ih =>
    have spoken := plain kind List.mem_cons_self
    have solid := isBlank_of_lexeme visible found spoken
    rw [Text.trimStart, List.dropWhile_cons_of_neg (by simp [solid])]
    -- The operator of an assignment would be a token of its own.
    have refused : ∀ symbol ∈ [['='], ['+', '='], ['-', '='], ['*', '='], ['/', '=']],
        kind ≠ .mark symbol := by
      rintro symbol member rfl
      simp only [List.mem_cons, List.not_mem_nil, or_false] at member
      rcases member with rfl | rfl | rfl | rfl | rfl <;> exact absurd spoken (by decide)
    unfold Form.assigns
    split
    · rename_i behind same
      rcases List.cons.inj same with ⟨rfl, rfl⟩
      by_contra single
      have single : rest.head? ≠ some '=' := by simpa using single
      have alone : lexeme '=' ('=' :: rest) = .token (.mark ['=']) 1 := by
        rw [lexeme_mark (by decide)]
        cases rest with
        | nil => simp [markLexeme, Token.tripleMarks, Token.doubleMarks]
        | cons next rest =>
          have other : next ≠ '=' := by simpa using single
          simp [markLexeme, Token.tripleMarks, Token.doubleMarks, other]
      rw [alone] at found
      exact refused ['='] (by decide) (Lexeme.token.inj found).1.symm
    · rename_i sign behind _ same
      rcases List.cons.inj same with ⟨rfl, rfl⟩
      by_contra compound
      have known : char = '+' ∨ char = '-' ∨ char = '*' ∨ char = '/' := by
        simp only [Bool.and_eq_false_iff, not_or, Bool.not_eq_false, Bool.or_eq_true,
          beq_iff_eq] at compound
        tauto
      have doubled : lexeme char (char :: '=' :: behind) = .token (.mark [char, '=']) 2 := by
        rcases known with rfl | rfl | rfl | rfl <;> rw [lexeme_mark (by decide)] <;>
          simp [markLexeme, Token.tripleMarks, Token.doubleMarks]
      rw [doubled] at found
      refine refused [char, '='] ?_ (Lexeme.token.inj found).1.symm
      rcases known with rfl | rfl | rfl | rfl <;> decide
    · rfl

/-- Behind no bracket of an expression stands the operator of an assignment. -/
theorem Lexer.Row.settled (row : Row closers text kinds final)
    (plain : ∀ kind ∈ kinds, kind.isPlain = true) {before behind : Text}
    (split : text = before ++ ']' :: behind) :
    Form.assigns (Text.trimStart behind) = false := by
  induction row generalizing before with
  | done closers => simp at split
  | @blank closers final char rest kinds hidden more ih =>
    cases before with
    | nil =>
      obtain rfl : char = ']' := (List.cons.inj split).1
      simp [Lexer.blanks] at hidden
    | cons first before => exact ih plain (List.cons.inj split).2
  | @token closers middle final char rest kind kinds count visible found shifts more ih =>
    have others : ∀ kind ∈ kinds, kind.isPlain = true :=
      fun kind member => plain kind (List.mem_cons_of_mem _ member)
    cases before with
    | nil =>
      rcases List.cons.inj split with ⟨rfl, rfl⟩
      rw [lexeme_of_bracket (.inr rfl)] at found
      cases found
      exact more.assigns_eq_false others
    | cons first before =>
      rw [List.cons_append] at split
      rcases List.cons.inj split with ⟨rfl, rfl⟩
      have ends : EndsToken ']' := endsToken_of_mem (by decide)
      have unquoted := isSome_quotation?_append ends (char :: before) behind
      rw [List.cons_append, unquoted_of_lexeme found (plain kind List.mem_cons_self),
        Option.isSome_none, eq_comm, Option.isSome_eq_false_iff, Option.isNone_iff_eq_none]
        at unquoted
      have keeps := keeps_lexeme unquoted
      have inside := keeps.length_le ((keeps.append_iff ends behind kind count).mp found)
      have dropped : (char :: (before ++ ']' :: behind)).drop count =
          (char :: before).drop count ++ ']' :: behind := List.drop_append_of_le_length inside
      exact ih others dropped

end Brackets

/-! ## Lines -/

section Lines

variable {environment : Environment} {text : Text} {value : Value} {line : Text}

/-- A compound assignment to a variable is classified as an assignment of the rewritten text. -/
theorem Operand.classify_variable (operand : Operand environment text value)
    (operator : Form.Operator) (name : Identifier)
    (written : stripStatement line =
      stripStatement (name.text ++ ' ' :: operator.sign :: '=' :: ' ' :: text)) :
    classify line = .ok (.assignment name.text (rewritten name.text operator text) none) := by
  let form : Form := .compound operator name.toName operand.expression
  exact form.classify_of_body (written.trans form.stripStatement_body)

/-- A compound assignment to a cell is classified as an assignment of the rewritten text. -/
theorem Operand.classify_cell (operand : Operand environment text value)
    (operator : Form.Operator) (name : Identifier) {index : Text} {position : Value}
    (indexed : Operand environment index position)
    (written : stripStatement line = stripStatement
      (name.text ++ '[' :: (index ++ ']' :: ' ' :: operator.sign :: '=' :: ' ' :: text))) :
    classify line = .ok (.assignment name.text
      (rewritten (name.text ++ '[' :: index ++ [']']) operator text) (some index)) := by
  rcases operand.exists_row with ⟨kinds, final, tree, row, derives, -⟩
  have recognised := Pattern.assignment?_compoundElement operator name.toName
    indexed.expression.toPart operand.expression.toPart fun _ _ => row.settled derives.plain
  have written' : Text.Uncommented text := .of_no_marker operand.uncommented
  have assigned : Text.Uncommented ('=' :: ' ' :: text) :=
    Text.Uncommented.nil.join '=' [' '] written' (by simp)
  have behind : Text.Uncommented (operator.sign :: '=' :: ' ' :: text) :=
    assigned.cons_cons (by decide)
  have inside : Text.Uncommented (index ++ ']' :: ' ' :: operator.sign :: '=' :: ' ' :: text) :=
    (Text.Uncommented.of_no_marker indexed.uncommented).join ']' [' '] behind (by simp)
  have uncommented := name.toName.uncommented.join '[' [] inside (by simp)
  have stripped : stripStatement line =
      name.text ++ '[' :: (index ++ ']' :: ' ' :: operator.sign :: '=' :: ' ' :: text) := by
    refine written.trans (Form.stripStatement_eq ?_ uncommented ?_)
    · exact Pattern.dropWhile_name name.toName _
    · have kept := operand.expression.dropEnd_append
        (name.text ++ '[' :: (index ++ [']', ' ', operator.sign, '=', ' ']))
      simpa [expression] using kept
  refine Form.classify_of_stripped ?_ fun found same => ?_
  · rw [stripped]
    exact Form.classifyStripped_assignment (show Text.isWord '[' = false by decide)
      (by rintro _ ⟨⟩) rfl recognised
  · cases found <;> first | exact same | cases same

end Lines

/-! ## Steps -/

namespace Step

/-- The ways in which a step comes to execute a line: the run stands in front of it, or in front of
a condition that holds and whose consequence it is.  The visited machine is the one that has moved
to the line, and `next` is the control point behind the line. -/
inductive Turns (limits : Limits) (line : Line) (machine : Machine) :
    Control → Machine → Event → Control → Prop
  | statement {place : Place} {more : List Line} (within : ¬Exhausted limits machine) :
      Turns limits line machine (place.control (line :: more)) (machine.visit place.inBody line)
        .assign (place.control more)
  | consequence {place : Place} {header : Line} {more rest : List Line} {condition : Text}
      {value : Value} (judged : Judged limits machine header more condition value (line :: rest))
      (holds : value.truthy = true)
      (withinNext : ¬Exhausted limits (machine.visit place.inBody header)) :
      Turns limits line machine (place.control (header :: more))
        ((machine.visit place.inBody header).visit place.inBody line) .condition
        (place.control rest)

variable {limits : Limits} {line : Line} {machine visited : Machine} {control next : Control}
  {event : Event}

theorem Turns.environment (turns : Turns limits line machine control visited event next) :
    visited.environment = machine.environment := by
  cases turns <;> rfl

theorem Turns.constants (turns : Turns limits line machine control visited event next) :
    visited.constants = machine.constants := by
  cases turns <;> rfl

/-- A line that is an assignment is executed by assigning. -/
theorem Turns.step_eq {name expression : Text} {index : Option Text}
    (turns : Turns limits line machine control visited event next)
    (classified : classify line.text = .ok (.assignment name expression index)) :
    step limits machine control =
      change event visited ((visited.assign name expression index).mapError .fault) next := by
  cases turns with
  | @statement place more within =>
    cases outcome : (machine.visit place.inBody line).assign name expression index with
    | ok changed => exact step_of_rule (.assigned classified within outcome)
    | error cause => exact step_of_rule (.assignmentFault classified within outcome)
  | @consequence place header more rest condition value judged holds withinNext =>
    cases outcome : ((machine.visit place.inBody header).visit place.inBody line).assign name
      expression index with
    | ok changed =>
      exact step_of_rule (.consequenceAssigned judged classified holds withinNext outcome)
    | error cause =>
      exact step_of_rule (.consequenceFault judged classified holds withinNext outcome)

/-- A step writes a value to a variable and changes nothing else of the visited machine; without a
value it fails with a fault of the run, and no variable is changed. -/
def Puts (limits : Limits) (machine : Machine) (control : Control) (visited : Machine)
    (event : Event) (next : Control) (name : Text) : Option Value → Prop
  | some value =>
    step limits machine control = .go (some event)
      { visited with
        environment := Environment.bind name value machine.environment
        arrayName := if value.isArray then some name else visited.arrayName } next
  | none =>
    ∃ cause, cause.code = .runtime ∧ step limits machine control = .fault visited cause ∧
      visited.environment = machine.environment

/-- What an assignment writes, if its value is found, or the fault it fails with. -/
theorem Turns.puts_of_agrees {name expression : Text} {index : Option Text} {value? : Option Value}
    (turns : Turns limits line machine control visited event next)
    (classified : classify line.text = .ok (.assignment name expression index))
    (agrees : Agrees (visited.assign name expression index)
      (value?.map fun value => visited.written name value)) :
    Puts limits machine control visited event next name value? := by
  rw [Puts.eq_def]
  cases value? with
  | some value =>
    have assigned : visited.assign name expression index = .ok (visited.written name value) :=
      agrees
    dsimp only
    rw [turns.step_eq classified, assigned, ← turns.environment]
    rfl
  | none =>
    rcases agrees with ⟨cause, failed, code⟩
    exact ⟨cause, code, by rw [turns.step_eq classified, failed]; rfl, turns.environment⟩

end Step

namespace Machine

variable {machine : Machine} {name expression : Text} {value? : Option Value}

theorem bind_of_free (free : machine.constantLine? name = none) (value : Value)
    (line : Option Nat) : machine.bind name value line = .ok (machine.written name value) := by
  rw [bind, free]
  rfl

theorem assign_variable_agrees (free : machine.constantLine? name = none)
    (agrees : Agrees (evaluateText expression machine.environment) value?) :
    Agrees (machine.assign name expression none)
      (value?.map fun value => machine.written name value) := by
  unfold assign
  cases value? with
  | none =>
    rcases agrees with ⟨cause, failed, code⟩
    rw [failed]
    exact .error cause code
  | some value =>
    have evaluated : evaluateText expression machine.environment = .ok value := agrees
    rw [evaluated]
    exact bind_of_free free value none

theorem assign_cell_agrees (free : machine.constantLine? name = none) {cells : List Value}
    (array : Environment.find? name machine.environment = some (.array cells)) {index : Text}
    {position : Value} (indexed : evaluateText index machine.environment = .ok position)
    {number? : Option Float}
    (agrees : Agrees (evaluateText expression machine.environment) (number?.map .number)) :
    Agrees (machine.assign name expression (some index))
      ((do
        let number ← number?
        let place ← place? cells position
        return Value.array (cells.set place (.number number))).map fun value =>
          machine.written name value) := by
  unfold assign
  cases number? with
  | none =>
    rcases agrees with ⟨cause, failed, code⟩
    rw [failed]
    exact .error cause code
  | some number =>
    have evaluated : evaluateText expression machine.environment = .ok (.number number) := agrees
    have placed := position_agrees cells position (name ++ '[' :: index ++ [']'])
    simp only [evaluated, updatedArray, array, Option.bind_some, Value.cells?, indexed]
    cases found : place? cells position with
    | none =>
      rw [found] at placed
      rcases placed with ⟨cause, failed, code⟩
      rw [failed]
      exact .error cause code
    | some place =>
      rw [found] at placed
      have placed : position.position cells.length _ = .ok place := placed
      rw [placed]
      exact bind_of_free free _ none

end Machine

/-- The array with the cell replaced that a compound assignment changes; none if there is no such
cell or one of the two values counts as no number. -/
def Form.Operator.combineCell? (operator : Operator) (cells : List Value)
    (position value : Value) : Option Value := do
  let place ← place? cells position
  let number ← operator.combine? cells[place]? value
  return .array (cells.set place (.number number))

/-- Whether the cell or the number is looked for first makes no difference. -/
theorem Form.Operator.combineCell?_eq (operator : Operator) (cells : List Value)
    (position value : Value) :
    operator.combineCell? cells position value = (do
      let number ← operator.combine? (do cells[← place? cells position]?) value
      let place ← place? cells position
      return .array (cells.set place (.number number))) := by
  unfold combineCell?
  cases place? cells position with
  | none => rfl
  | some place =>
    simp only [Option.bind_eq_bind, Option.bind_some]

/-- A compound assignment means its operator.  Whatever the right side is, as long as it has a value
by itself, a variable is given what the operator makes of its old value and that value, and so is a
cell of an array; where there is no such number the step fails and changes no variable. -/
theorem step_compound {limits : Limits} {line : Line} {machine visited : Machine}
    {control next : Control} {event : Event} {text : Text} {value : Value}
    (operator : Form.Operator) (name : Identifier)
    (turns : Step.Turns limits line machine control visited event next)
    (free : machine.constantLine? name.text = none)
    (operand : Operand machine.environment text value) :
    (name.text ≠ "true".toList → name.text ≠ "false".toList →
      stripStatement line.text =
        stripStatement (name.text ++ ' ' :: operator.sign :: '=' :: ' ' :: text) →
      Step.Puts limits machine control visited event next name.text
        ((operator.combine? (Environment.find? name.text machine.environment) value).map
          .number)) ∧
    ∀ index position cells, Operand machine.environment index position →
      Environment.find? name.text machine.environment = some (.array cells) →
      stripStatement line.text = stripStatement
        (name.text ++ '[' :: (index ++ ']' :: ' ' :: operator.sign :: '=' :: ' ' :: text)) →
      Step.Puts limits machine control visited event next name.text
        (operator.combineCell? cells position value) := by
  have free' : visited.constantLine? name.text = none := by
    rwa [Machine.constantLine?, turns.constants]
  constructor
  · intro noTrue noFalse written
    have agrees := operand.agrees_variable operator name noTrue noFalse
    rw [← turns.environment] at agrees
    refine turns.puts_of_agrees (operand.classify_variable operator name written) ?_
    rw [← turns.environment]
    exact Machine.assign_variable_agrees free' agrees
  · intro index position cells indexed array written
    have agrees := operand.agrees_cell operator name indexed array
    rw [← turns.environment] at agrees
    refine turns.puts_of_agrees (operand.classify_cell operator name indexed written) ?_
    rw [operator.combineCell?_eq]
    rw [← turns.environment] at array
    exact Machine.assign_cell_agrees free' array (turns.environment ▸ indexed.evaluated) agrees

/-- A truth value is added to itself, and to the second cell of an array. -/
theorem step_compound_of_truth :
    let cells : List Value := [.number 5, .number 6]
    let machine : Machine := { Machine.initial with
      environment := [(['x'], .boolean true), (['i'], .number 1), (['a'], .array cells)] }
    let sum : Line := ⟨0, "x += (x)".toList⟩
    let cell : Line := ⟨0, "a[i] += (x)".toList⟩
    Step.Puts .standard machine (.top [sum]) (machine.visit false sum) .assign (.top []) ['x']
      ((Form.Operator.plus.combine? (some (.boolean true)) (.boolean true)).map .number) ∧
    Step.Puts .standard machine (.top [cell]) (machine.visit false cell) .assign (.top []) ['a']
      (Form.Operator.plus.combineCell? cells (.number 1) (.boolean true)) := by
  intro cells machine sum cell
  let name (letter : Char) (opens : letter.isAlpha ∨ letter = '_')
    (free : [letter] ∉ Token.reservedWords) : Identifier := ⟨letter, [], opens, by simp, free⟩
  have within : ¬Step.Exhausted .standard machine := by
    simp [Step.Exhausted, machine, Machine.initial, Limits.standard]
  have turns (line : Line) : Step.Turns .standard line machine (.top [line])
      (machine.visit false line) .assign (.top []) :=
    @Step.Turns.statement .standard line machine .top [] within
  have operand (text : Text) {value : Value} (oneLine : OneLine text)
      (plain : Text.trim text = text ∧ ¬['/', '/'] <:+: text ∧
        text.getLast? ≠ some ';' ∧ nesting ((scan text).tokens.map Token.kind) ≤ 60)
      (shallow : (parseExpression text).toOption.any (·.depth + 2 ≤ nestingLimit) = true)
      (evaluated : evaluateText text machine.environment = .ok value) :
      Operand machine.environment text value := by
    rcases plain with ⟨trimmed, uncommented, unended, brackets⟩
    exact ⟨trimmed, oneLine, uncommented, unended, brackets,
      fun tree read => by simpa [read, Except.toOption] using shallow, evaluated⟩
  have truth : (evaluateText "(x)".toList machine.environment).toOption.any (fun value =>
      value.kind == "boolean" && value.truthy) = true := by decide +kernel
  have found : evaluateText "i".toList machine.environment = .ok (.number 1) := rfl
  rcases Fault.exists_of_any truth with ⟨value, evaluated, holds⟩
  obtain rfl : value = .boolean true := by
    cases value with
    | boolean truth => exact congrArg _ holds
    | number | array => cases holds
  have value := operand "(x)".toList (by simp [OneLine]) (by decide +kernel) (by decide +kernel)
    evaluated
  have position := operand "i".toList (by simp [OneLine]) (by decide +kernel) (by decide +kernel)
    found
  constructor
  · exact (step_compound .plus (name 'x' (by decide) (by decide)) (turns sum) rfl value).1
      (by decide) (by decide) rfl
  · exact (step_compound .plus (name 'a' (by decide) (by decide)) (turns cell) rfl value).2 _ _
      cells position rfl rfl

end StepScript
