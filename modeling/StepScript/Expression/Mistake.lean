import StepScript.Expression.Formatted
import StepScript.Expression.Reading

/-!
# Common mistakes

The grammar of expressions once more, this time with the mistakes that are often made in it.  A
mistake is a way of writing that is no expression, but that can be told from all others, such as a
comma left out between two items.  It is blamed at the place where it is made, which may lie far in
front of the first token that fits nowhere.
-/

namespace StepScript.Reading

/-- How an expression inside a formatted text is judged: the column at which it goes wrong. -/
abbrev Judge := Text → Option Nat

/-- Words that were statements of their own once. -/
def isFormerStatement (phrase : Phrase) : Bool :=
  match phrase with
  | .name _ spelling => spelling == "print".toList || spelling == "exec".toList
  | _ => false

variable (judge : Judge) (sub : Rule → Reader Phrase)

/-- An expression outside of brackets: a part for which only its span matters. -/
def plain (reader : Reader Unit) : Reader Phrase := do
  let start ← position
  reader
  return .other (← spanFrom start)

/-- Operands of one level with operators between them. -/
def chain (operators : List String) (operand next : Rule) : Reader Phrase := do
  let start ← position
  growing (sub operand) fun _ => do
    let _ ← expectAny (operators.map mark)
    let _ ← sub next
    return .other (← spanFrom start)

/-- Operands with a reserved word between them. -/
def wordChain (operator : String) (operand : Rule) : Reader Phrase := do
  let start ← position
  growing (sub operand) fun _ => do
    let _ ← expect (word operator)
    let _ ← sub operand
    return .other (← spanFrom start)

/-! ### Expressions -/

/-- A name in front of a colon and an equals sign, and the value it gets. -/
def assignment : Reader Phrase := plain do
  let _ ← name
  let _ ← expect (mark ":=")
  let _ ← sub .expression

def starredValue (value : Rule) : Reader Phrase := do
  let start ← position
  let _ ← expect (mark "*")
  let phrase ← sub value
  return .starred (← spanFrom start) phrase

/-- Several values of a kind: one alone stands for itself, and a comma makes a tuple. -/
def tupleOf (item : Reader Phrase) : Reader Phrase := do
  let start ← position
  let items ← separated item
  let comma ← take? (mark ",")
  match items, comma with
  | [only], false => return only
  | _, _ => return .sequence (← spanFrom start) items

/-- Values that may be starred. -/
def starExpressions : Reader Phrase :=
  tupleOf (sub .starExpression)

/-- An item of a bracket. -/
def starNamed : Reader Phrase :=
  firstOf [starredValue sub .bitOr, sub .named]

/-- Items of a bracket, and perhaps a comma behind them. -/
def starNamedItems : Reader (List Phrase) := do
  let items ← separated (starNamed sub)
  let _ ← take? (mark ",")
  return items

/-- Whether a name may be meant as a word of some construct: any name in front of a quotation, and
one with which such a word begins. -/
def atSoftStart : Reader Bool := do
  match (← look).kind with
  | .name spelling =>
    let quoted ← succeeds do
      let _ ← advance
      match (← look).kind with
      | .quotation _ => return ()
      | _ => refuse
    return quoted || Token.softWords.any fun known => (Text.after? spelling known).isSome
  | _ => return false

def choice : Reader Phrase := plain do
  let _ ← sub .disjunction
  let _ ← expect (word "if")
  let _ ← sub .disjunction
  let _ ← expect (word "else")
  let _ ← sub .expression

/-- Two expressions side by side in a bracket. -/
def missingComma (lambda : Reader Phrase) : Reader Unit := do
  if ← atSoftStart then refuse
  let left ← sub .disjunction
  let _ ← quietly (firstOf [choice sub, sub .disjunction, lambda])
  let depth := ((← get).last.map Token.depth).getD 0
  if isFormerStatement left || depth == 0 then refuse
  blameAt left.span.start

/-- A choice that ends in front of its second value. -/
def missingElse : Reader Unit := do
  let value ← sub .disjunction
  let _ ← expect (word "if")
  let _ ← sub .disjunction
  if (← at? (word "else")) || (← at? (mark ":")) then refuse
  blameAt value.span.start

def formerStatement : Reader Unit := do
  let statement ← name
  if ← at? (mark "(") then refuse
  let _ ← starExpressions sub
  if isFormerStatement statement then blameAt statement.span.start
  refuse

def expression (lambda : Reader Phrase) : Reader Phrase :=
  firstOf
    [searched (missingComma sub lambda), searched (missingElse sub),
      searched (formerStatement sub), choice sub, sub .disjunction, lambda]

/-- An expression that may give its value a name. -/
def named : Reader Phrase :=
  firstOf
    [assignment sub,
      searched do
        let _ ← sub .namedMistake,
      do
        let phrase ← sub .expression
        if ← at? (mark ":=") then refuse
        return phrase]

def yielded : Reader Phrase := plain do
  let _ ← expect (word "yield")
  let fromOther : Reader Unit := do
    let _ ← expect (word "from")
    let _ ← sub .expression
  match ← attempt fromOther with
  | some () => return ()
  | none =>
    let _ ← attempt (starExpressions sub)

/-! ### Operators -/

/-- An operator between the two sides of a comparison.  Tells whether it asks for membership. -/
def comparisonOperator : Reader Bool := do
  match (← look).kind with
  | .mark symbol =>
    if ["==", "!=", "<=", "<", ">=", ">"].any fun known => known.toList == symbol then
      let _ ← advance
      return false
    else refuse
  | _ =>
    if ← take? (word "in") then return true
    else if ← take? (word "is") then
      let _ ← take? (word "not")
      return false
    else
      let _ ← expect (word "not")
      let _ ← expect (word "in")
      return false

def comparison : Reader Phrase := do
  let start ← position
  let first ← sub .bitOr
  let operators ← many do
    let membership ← comparisonOperator
    let _ ← sub .bitOr
    return membership
  match operators with
  | [] => return first
  | true :: _ => return .membership (← spanFrom start) first
  | false :: _ => return .comparison (← spanFrom start)

def signed (signs : List TokenKind) (operand tighter : Rule) : Reader Phrase :=
  firstOf
    [plain do
        let _ ← expectAny signs
        let _ ← sub operand,
      sub tighter]

def power : Reader Phrase :=
  firstOf
    [plain do
        let _ ← sub .awaited
        let _ ← expect (mark "**")
        let _ ← sub .factor,
      sub .awaited]

def awaited : Reader Phrase :=
  firstOf
    [plain do
        let _ ← expect (word "await")
        let _ ← sub .primary,
      sub .primary]

/-! ### Comprehensions -/

/-- The part of what a comprehension binds that cannot be bound. -/
def unbindable? : Phrase → Option Nat
  | .name _ _ | .place _ | .comparison _ => none
  | .sequence _ items => unbindableAny? items
  | .starred _ value => unbindable? value
  | .membership _ left => unbindable? left
  | .other span => some span.start
where
  /-- The same for several phrases. -/
  unbindableAny? : List Phrase → Option Nat
    | [] => none
    | item :: rest => (unbindable? item).or (unbindableAny? rest)

def targets : Reader Phrase :=
  tupleOf (sub .target)

/-- What follows the targets of a comprehension.  Once the word `in` is there, no other reading is
tried. -/
def sourceTail : Reader Unit := do
  let _ ← sub .disjunction
  let _ ← many do
    let _ ← expect (word "if")
    sub .disjunction

/-- One `for` part of a comprehension. -/
def source : Reader Unit := do
  let start (asynchronous : Bool) : Reader Unit := do
    if asynchronous then
      let _ ← expect (word "async")
    let _ ← expect (word "for")
    let _ ← targets sub
    let _ ← expect (word "in")
  match ← attempt (firstOf [start true, start false]) with
  | some () => sourceTail sub
  | none =>
    searched do
      let _ ← take? (word "async")
      let _ ← expect (word "for")
      let bound ← starExpressions sub
      match unbindable? bound with
      | some place => blameAt place
      | none => refuse

/-- The `for` parts of a comprehension. -/
def sources : Reader Unit := do
  let _ ← some1 (source sub)

def bareArgument : Reader Phrase :=
  firstOf
    [assignment sub,
      do
        let phrase ← sub .expression
        if ← at? (mark ":=") then refuse
        return phrase]

/-- A starred argument.  A star alone is a mistake that cannot be anything else. -/
def starredArgument : Reader Phrase := do
  let star ← expect (mark "*")
  match ← attempt (sub .expression) with
  | some phrase => return .starred (← spanFrom star.span.start) phrase
  | none => blame .latest

/-- A starred value, or several values, in front of the `for` of a comprehension. -/
def comprehensionMistake : Reader Unit :=
  let opening (brackets : List String) : Reader Unit := do
    let _ ← expectAny (brackets.map mark)
  firstOf
    [do
        opening ["[", "(", "\x7b"]
        let phrase ← starredArgument sub
        sources sub
        blameAt phrase.span.start,
      do
        opening ["[", "\x7b"]
        let phrase ← starNamed sub
        let _ ← expect (mark ",")
        let _ ← starNamedItems sub
        sources sub
        blameAt phrase.span.start,
      do
        opening ["[", "\x7b"]
        let phrase ← starNamed sub
        let _ ← expect (mark ",")
        sources sub
        blameAt phrase.span.start]

def comprehension (opens closes : String) (value : Reader Unit) (mistake : Reader Unit) :
    Reader Phrase :=
  firstOf
    [plain do
        let _ ← expect (mark opens)
        value
        sources sub
        let _ ← expect (mark closes),
      searched mistake]

def generator : Reader Phrase :=
  comprehension sub "(" ")" (do let _ ← bareArgument sub) (comprehensionMistake sub)

/-! ### Calls and subscripts -/

/-- A named argument that gives its name to something else. -/
def namedArgumentMistake : Reader Unit :=
  firstOf
    [do
        let constant ← expectAny [word "True", word "False", word "None"]
        let _ ← expect (mark "=")
        blameAt constant.span.start,
      do
        let argument ← name
        let _ ← expect (mark "=")
        let _ ← sub .expression
        sources sub
        blameAt argument.span.start,
      do
        let isNamed : Reader Unit := do
          let _ ← name
          let _ ← expect (mark "=")
        if ← succeeds isNamed then refuse
        let phrase ← sub .expression
        let _ ← expect (mark "=")
        blameAt phrase.span.start]

def namedArgument : Reader Phrase := plain do
  let _ ← name
  let _ ← expect (mark "=")
  let _ ← sub .expression

/-- Arguments that are passed by their names, with starred ones between them. -/
def namedArguments : Reader (List Phrase) :=
  let single : Reader Phrase :=
    firstOf [searched (namedArgumentMistake sub), namedArgument sub, starredArgument sub]
  let double : Reader Phrase :=
    firstOf
      [searched (namedArgumentMistake sub), namedArgument sub,
        plain do
          let _ ← expect (mark "**")
          let _ ← sub .expression]
  firstOf
    [do
        let front ← separated single
        let _ ← expect (mark ",")
        return front ++ (← separated double),
      separated single,
      separated double]

def positionalArguments : Reader (List Phrase) :=
  separated <| firstOf
    [starredArgument sub,
      do
        let phrase ← bareArgument sub
        if ← at? (mark "=") then refuse
        return phrase]

/-- Arguments that are passed by their positions, and others behind them. -/
def mixedArguments : Reader (List Phrase) := do
  let front ← positionalArguments sub
  let _ ← expect (mark ",")
  return front ++ (← namedArguments sub)

def argumentList : Reader (List Phrase) :=
  firstOf
    [do
        let front ← positionalArguments sub
        let rest ← attempt do
          let _ ← expect (mark ",")
          namedArguments sub
        return front ++ rest.getD [],
      namedArguments sub]

/-- Arguments in an order or a form in which they cannot be passed. -/
def argumentMistake : Reader Unit :=
  firstOf
    [do
        let _ ← firstOf [mixedArguments sub, namedArguments sub]
        let comma ← expect (mark ",")
        let _ ← separated do
          let _ ← starredArgument sub
          if ← at? (mark "=") then refuse
        blameAt comma.span.start,
      do
        let phrase ← sub .expression
        sources sub
        let _ ← expect (mark ",")
        let _ ← attempt (firstOf
          [do
              let _ ← argumentList sub,
            do
              let _ ← sub .expression
              sources sub])
        blameAt phrase.span.start,
      do
        let argument ← name
        let _ ← expect (mark "=")
        let _ ← sub .expression
        sources sub
        blameAt argument.span.start,
      do
        let phrases ← argumentList sub
        sources sub
        match phrases.getLast? with
        | some phrase => if phrases.length ≤ 1 then refuse else blameAt phrase.span.start
        | none => refuse,
      do
        let _ ← argumentList sub
        let _ ← expect (mark ",")
        let phrase ← sub .expression
        sources sub
        blameAt phrase.span.start,
      do
        let _ ← argumentList sub
        let _ ← expect (mark ",")
        let _ ← argumentList sub
        blame .latest]

def arguments : Reader Phrase :=
  firstOf
    [plain do
        let _ ← argumentList sub
        let _ ← take? (mark ",")
        unless ← at? (mark ")") do refuse,
      searched (argumentMistake sub)]

def slice : Reader Phrase :=
  firstOf
    [plain do
        let _ ← attempt (sub .expression)
        let _ ← expect (mark ":")
        let _ ← attempt (sub .expression)
        let _ ← attempt do
          let _ ← expect (mark ":")
          attempt (sub .expression),
      sub .named]

/-- What stands in the brackets of a subscript. -/
def slices : Reader Unit :=
  firstOf
    [do
        let _ ← slice sub
        if ← at? (mark ",") then refuse,
      do
        let _ ← separated (firstOf [slice sub, starredArgument sub])
        let _ ← take? (mark ",")]

/-- The property, call or subscript behind a value. -/
def suffix (start : Nat) : Reader Phrase :=
  firstOf
    [do
        let _ ← expect (mark ".")
        let _ ← name
        return .place (← spanFrom start),
      do
        let _ ← generator sub
        return .other (← spanFrom start),
      do
        let _ ← expect (mark "(")
        let _ ← attempt (sub .arguments)
        let _ ← expect (mark ")")
        return .other (← spanFrom start),
      do
        let _ ← expect (mark "[")
        slices sub
        let _ ← expect (mark "]")
        return .place (← spanFrom start)]

/-- A value with the properties, calls and subscripts behind it. -/
def primary : Reader Phrase := do
  let start ← position
  growing (sub .atom) fun _ => suffix sub start

/-! ### Brackets -/

def tuple : Reader Phrase := do
  let start ← position
  let _ ← expect (mark "(")
  let items ← attempt do
    let first ← starNamed sub
    let _ ← expect (mark ",")
    let others ← attempt (starNamedItems sub)
    return first :: others.getD []
  let _ ← expect (mark ")")
  return .sequence (← spanFrom start) (items.getD [])

/-- A starred value in parentheses without a comma. -/
def groupMistake : Reader Unit :=
  firstOf
    [do
        let _ ← expect (mark "(")
        let phrase ← starredArgument sub
        let _ ← expect (mark ")")
        blameAt phrase.span.start,
      do
        let _ ← expect (mark "(")
        let stars ← expect (mark "**")
        let _ ← sub .expression
        let _ ← expect (mark ")")
        blameAt stars.span.start]

def group : Reader Phrase :=
  firstOf
    [do
        let _ ← expect (mark "(")
        let phrase ← firstOf [yielded sub, sub .named]
        let _ ← expect (mark ")")
        return phrase,
      searched (groupMistake sub)]

def list : Reader Phrase := do
  let start ← position
  let _ ← expect (mark "[")
  let items ← attempt (starNamedItems sub)
  let _ ← expect (mark "]")
  return .sequence (← spanFrom start) (items.getD [])

def keyAndValue : Reader Unit := do
  let _ ← sub .expression
  let _ ← expect (mark ":")
  let _ ← sub .expression

def entry : Reader Unit :=
  firstOf
    [do
        let _ ← expect (mark "**")
        let _ ← sub .bitOr,
      keyAndValue sub]

/-- A key without a value.  The colon or the star at its end is blamed. -/
def lostValue : List (Reader Unit) :=
  [do
      let _ ← sub .expression
      let _ ← expect (mark ":")
      let star ← expect (mark "*")
      let _ ← sub .bitOr
      blameAt star.span.start,
    do
      let _ ← sub .expression
      let colon ← expect (mark ":")
      unless (← at? (mark "\x7d")) || (← at? (mark ",")) do refuse
      blameAt colon.span.start]

/-- Entries of which the last has no value. -/
def entryMistake : Reader Unit :=
  let keyAlone : Reader Unit := do
    let key ← sub .expression
    if ← at? (mark ":") then refuse
    blameAt (key.span.stop - 1)
  firstOf
    ((do
        let _ ← separated (entry sub)
        let _ ← expect (mark ",")
        firstOf (keyAlone :: lostValue sub)) :: lostValue sub)

def dictionary : Reader Phrase :=
  firstOf
    [plain do
        let _ ← expect (mark "\x7b")
        let _ ← attempt do
          let _ ← separated (entry sub)
          take? (mark ",")
        let _ ← expect (mark "\x7d"),
      plain do
        let _ ← expect (mark "\x7b")
        entryMistake sub
        let _ ← expect (mark "\x7d")]

def braceSet : Reader Phrase := plain do
  let _ ← expect (mark "\x7b")
  let _ ← starNamedItems sub
  let _ ← expect (mark "\x7d")

/-- A mapping in front of the `for` of a comprehension. -/
def mappingMistake : Reader Unit := do
  let _ ← expect (mark "\x7b")
  let stars ← expect (mark "**")
  let _ ← sub .bitOr
  sources sub
  let _ ← expect (mark "\x7d")
  blameAt stars.span.start

/-- What begins with a brace. -/
def braced : Reader Phrase :=
  firstOf
    [dictionary sub, braceSet sub,
      comprehension sub "\x7b" "\x7d" (keyAndValue sub) (mappingMistake sub),
      comprehension sub "\x7b" "\x7d" (do let _ ← sub .named) (comprehensionMistake sub)]

/-- A value with a name of its own where only names are allowed, or an equals sign in place of a
comparison.  A list, a tuple, a generator or a constant in front of an equals sign is none of
these. -/
def namedMistake : Reader Phrase :=
  let misplacedBinding : Reader Phrase := do
    let left ← sub .expression
    let _ ← expect (mark ":=")
    let _ ← sub .expression
    blameAt left.span.start
  let equals (left : Reader Phrase) : Reader Phrase := do
    let left ← left
    let _ ← expect (mark "=")
    let _ ← sub .bitOr
    if (← at? (mark "=")) || (← at? (mark ":=")) then refuse
    blameAt left.span.start
  let constant : Reader Phrase := plain do
    let _ ← expectAny [word "True", word "None", word "False"]
  firstOf
    [misplacedBinding, equals name,
      do
        if ← succeeds (firstOf [list sub, tuple sub, generator sub, constant]) then refuse
        equals (sub .bitOr)]

/-- Quotations side by side.  They are all of bytes or none, and what they hold has to be well
formed. -/
def quotations : Reader Phrase := do
  let start ← position
  let parts ← some1 do
    match (← look).kind with
    | .quotation quoted =>
      let token ← advance
      return (token, quoted)
    | _ => refuse
  let _ ← look
  let bytesFirst := (parts.head?.map fun (_, quoted) => quoted.isBytes).getD false
  for (token, quoted) in parts do
    if !Escape.isPlain quoted then blameAt token.span.start
    if !Escape.isComplete quoted || quoted.isBytes != bytesFirst then blame .latest
    if quoted.isFormatted then
      let fields := Formatted.fields quoted.isRaw quoted.content
      match fields.expressions.findSome? judge with
      | some column => blame (.column column)
      | none => unless fields.wellFormed do blame .latest
  return .other (← spanFrom start)

def atom : Reader Phrase := do
  let kind := (← look).kind
  match kind with
  | .name _ => name
  | .integer _ | .double _ | .imaginary => plain do
    let _ ← advance
  | .longInteger => blame (.column 1)
  | .quotation _ => quotations judge
  | _ =>
    if kind = word "True" ∨ kind = word "False" ∨ kind = word "None" ∨ kind = mark "..." then
      plain do
        let _ ← advance
    else if kind = mark "(" then firstOf [tuple sub, group sub, generator sub]
    else if kind = mark "[" then
      firstOf
        [list sub,
          comprehension sub "[" "]" (do let _ ← sub .named) (comprehensionMistake sub)]
    else if kind = mark "\x7b" then braced sub
    else refuse

/-! ### Targets -/

/-- Whether a value goes on. -/
def atSuffix : Reader Bool := do
  let kind := (← look).kind
  return kind == mark "(" || kind == mark "[" || kind == mark "."

/-- A value whose last suffix is still to come. -/
def targetPrimary : Reader Phrase := do
  let start ← position
  let open_ (reader : Reader Phrase) : Reader Phrase := do
    let phrase ← reader
    if ← atSuffix then return phrase else refuse
  growing (open_ (sub .atom)) fun _ => open_ (suffix sub start)

def targetPlace : Reader Phrase := do
  let start ← position
  let closed (reader : Reader Unit) : Reader Phrase := do
    let _ ← sub .targetPrimary
    reader
    if ← atSuffix then refuse
    return .place (← spanFrom start)
  let items (opens closes : String) (inside : Reader Unit) : Reader Phrase := do
    let _ ← expect (mark opens)
    let _ ← attempt inside
    let _ ← expect (mark closes)
    return .sequence (← spanFrom start) []
  firstOf
    [closed do
        let _ ← expect (mark ".")
        let _ ← name,
      closed do
        let _ ← expect (mark "[")
        slices sub
        let _ ← expect (mark "]"),
      name,
      do
        let _ ← expect (mark "(")
        let phrase ← sub .targetPlace
        let _ ← expect (mark ")")
        return phrase,
      items "(" ")" do
        let _ ← sub .target
        let _ ← expect (mark ",")
        let _ ← attempt (separated (sub .target))
        let _ ← take? (mark ","),
      items "[" "]" do
        let _ ← separated (sub .target)
        let _ ← take? (mark ",")]

def target : Reader Phrase :=
  firstOf
    [plain do
        let _ ← expect (mark "*")
        if ← at? (mark "*") then refuse
        let _ ← sub .target,
      sub .targetPlace]

/-! ### Functions -/

/-- The value of a parameter that is not passed. -/
def default : Reader Unit := do
  let equals ← expect (mark "=")
  match ← attempt (sub .expression) with
  | some _ => return ()
  | none =>
    searched do
      if (← at? (mark ")")) || (← at? (mark ",")) then blameAt equals.span.start

/-- The end of a parameter: a comma, or the colon behind all parameters. -/
def parameterEnd : Reader Unit := do
  unless ← take? (mark ",") do
    unless ← at? (mark ":") do refuse

def bareParameter : Reader Nat := do
  let phrase ← name
  parameterEnd
  return phrase.span.start

def defaultParameter : Reader Unit := do
  let _ ← name
  default sub
  parameterEnd

def anyParameter : Reader Unit := do
  let _ ← name
  let _ ← attempt (default sub)
  parameterEnd

def slash : Reader Unit := do
  let _ ← expect (mark "/")
  parameterEnd

/-- Parameters in front of a slash, none of which has a value of its own. -/
def slashedBare : Reader Unit := do
  let _ ← some1 bareParameter
  slash

/-- Parameters in front of a slash, the last of which have values of their own. -/
def slashedDefault : Reader Unit := do
  let _ ← many bareParameter
  let _ ← some1 (defaultParameter sub)
  slash

def slashed : Reader Unit :=
  firstOf [slashedBare, slashedDefault sub]

/-- A parameter with two stars that is not the last one, or has a value. -/
def mappingParameterMistake : Reader Unit := do
  let _ ← expect (mark "**")
  let _ ← name
  if ← at? (mark "=") then blameAt (← position)
  let _ ← expect (mark ",")
  match ← attempt name with
  | some phrase => blameAt phrase.span.start
  | none =>
    let token ← expectAny [mark "*", mark "**", mark "/"]
    blameAt token.span.start

def mappingParameter : Reader Unit :=
  firstOf
    [searched mappingParameterMistake,
      do
        let _ ← expect (mark "**")
        let _ ← bareParameter]

/-- A star among the parameters that introduces nothing, or comes twice. -/
def starParameterMistake : Reader Unit :=
  let named : Reader Unit :=
    firstOf
      [do
          let _ ← bareParameter,
        do
          let _ ← expect (mark ",")]
  firstOf
    [do
        let _ ← expect (mark "*")
        firstOf
          [do
              let _ ← expect (mark ":"),
            do
              let _ ← expect (mark ",")
              let _ ← expectAny [mark ":", mark "**"]]
        blame .latest,
      do
        let _ ← expect (mark "*")
        let _ ← name
        let equals ← expect (mark "=")
        blameAt equals.span.start,
      do
        let _ ← expect (mark "*")
        named
        let _ ← many (anyParameter sub)
        let star ← expect (mark "*")
        named
        blameAt star.span.start]

def starParameters : Reader Unit :=
  firstOf
    [searched (starParameterMistake sub),
      do
        let _ ← expect (mark "*")
        let _ ← bareParameter
        let _ ← many (anyParameter sub)
        let _ ← attempt mappingParameter,
      do
        let _ ← expect (mark "*")
        let _ ← expect (mark ",")
        let _ ← some1 (anyParameter sub)
        let _ ← attempt mappingParameter,
      mappingParameter]

/-- Parameters in an order in which they cannot stand. -/
def parameterMistake : Reader Unit :=
  firstOf
    [do
        let _ ← many bareParameter
        firstOf
          [slashedDefault sub,
            do
              let _ ← some1 (defaultParameter sub)]
        blameAt (← bareParameter),
      do
        let _ ← many bareParameter
        let opening ← expect (mark "(")
        let _ ← separated name
        let _ ← take? (mark ",")
        let _ ← expect (mark ")")
        blameAt opening.span.start,
      do
        let slash ← expect (mark "/")
        let _ ← expect (mark ",")
        blameAt slash.span.start,
      do
        slashed sub
        let _ ← many (anyParameter sub)
        let slash ← expect (mark "/")
        blameAt slash.span.start,
      do
        let _ ← attempt (slashed sub)
        let _ ← many (anyParameter sub)
        let _ ← expect (mark "*")
        firstOf
          [do
              let _ ← expect (mark ","),
            do
              let _ ← bareParameter]
        let _ ← many (anyParameter sub)
        let slash ← expect (mark "/")
        blameAt slash.span.start,
      do
        let _ ← some1 (anyParameter sub)
        let _ ← expect (mark "/")
        let star ← expect (mark "*")
        blameAt star.span.start]

def parameters : Reader Unit :=
  let withStar : Reader Unit := do
    let _ ← attempt (starParameters sub)
  firstOf
    [searched (parameterMistake sub),
      do
        slashedBare
        let _ ← many bareParameter
        let _ ← many (defaultParameter sub)
        withStar,
      do
        slashedDefault sub
        let _ ← many (defaultParameter sub)
        withStar,
      do
        let _ ← some1 bareParameter
        let _ ← many (defaultParameter sub)
        withStar,
      do
        let _ ← some1 (defaultParameter sub)
        withStar,
      starParameters sub]

/-- A function. -/
def lambda : Reader Phrase := plain do
  let _ ← expect (word "lambda")
  let _ ← attempt (parameters sub)
  let _ ← expect (mark ":")
  let _ ← sub .expression

/-! ### The whole grammar -/

/-- The reader of a rule, given readers of all rules. -/
def ruleReader : Rule → Reader Phrase
  | .named => named sub
  | .namedMistake => namedMistake sub
  | .expression => expression sub (lambda sub)
  | .disjunction => wordChain sub "or" .conjunction
  | .conjunction => wordChain sub "and" .inversion
  | .inversion => signed sub [word "not"] .inversion .comparison
  | .comparison => comparison sub
  | .bitOr => chain sub ["|"] .bitXor .bitXor
  | .bitXor => chain sub ["^"] .bitAnd .bitAnd
  | .bitAnd => chain sub ["&"] .shift .shift
  | .shift => chain sub ["<<", ">>"] .sum .sum
  | .sum => chain sub ["+", "-"] .term .term
  | .term => chain sub ["*", "/", "//", "%", "@"] .factor .factor
  | .factor => signed sub [mark "+", mark "-", mark "~"] .factor .power
  | .power => power sub
  | .awaited => awaited sub
  | .primary => primary sub
  | .atom => atom judge sub
  | .starExpression => firstOf [starredValue sub .bitOr, sub .expression]
  | .arguments => arguments sub
  | .target => target sub
  | .targetPlace => targetPlace sub
  | .targetPrimary => targetPrimary sub

/-- A reader of a rule that makes at most so many nested calls. -/
def read : Nat → Rule → Reader Phrase
  | 0, _ => refuse
  | fuel + 1, rule =>
    if rule.isNoted then noted rule (ruleReader judge (read fuel) rule)
    else ruleReader judge (read fuel) rule

/-- A whole source: one expression, or several with commas between them. -/
def whole : Reader Unit := do
  let _ ← tupleOf (sub .expression)
  let _ ← many (expect .newline)
  let _ ← expect .finish

/-- An expression inside a formatted text, which is read as if it stood in parentheses. -/
def field : Reader Unit := do
  let _ ← starExpressions sub

end StepScript.Reading
