import StepScript.Json.Reader
import StepScript.Proofs.Number.Digits

/-!
# Written JSON is read back

A value without doubles whose integers can be written, and whose containers are nested no deeper
than the reader follows, is what the reader finds in its text (`read?_write`).  The reader takes a
value off the front of a text as soon as something follows that cannot lengthen a number, and both
its fuel and its depth are bounded by what has been written.
-/

namespace StepScript.Json

/-! ## Texts -/

theorem hexValue?_digitChar (digit : Nat) (small : digit < 16) :
    hexValue? (Nat.digitChar digit) = some digit := by
  have each : ∀ digit : Fin 16, hexValue? (Nat.digitChar digit.val) = some digit.val := by decide
  exact each ⟨digit, small⟩

theorem unit?_digits {unit : Nat} (small : unit < 0x10000) :
    unit? (Nat.digitChar (unit / 4096)) (Nat.digitChar (unit / 256 % 16))
      (Nat.digitChar (unit / 16 % 16)) (Nat.digitChar (unit % 16)) = some unit := by
  have first := hexValue?_digitChar (unit / 4096) (by omega)
  have second := hexValue?_digitChar (unit / 256 % 16) (by omega)
  have third := hexValue?_digitChar (unit / 16 % 16) (by omega)
  have fourth := hexValue?_digitChar (unit % 16) (by omega)
  simp only [unit?, first, second, third, fourth, Option.bind_eq_bind, Option.bind_some]
  exact congrArg some (by omega)

/-- Some codes in front of what is read from a text. -/
def prepend (codes : List Nat) (read : List Nat × Text) : List Nat × Text :=
  (codes ++ read.1, read.2)

theorem readCodes_writeUnit {unit : Nat} (small : unit < 0x10000) (rest : Text) :
    readCodes (writeUnit unit ++ rest) = (readCodes rest).map (prepend [unit]) := by
  simp only [writeUnit, List.cons_append, List.nil_append, readCodes, unit?_digits small,
    Option.bind_eq_bind, Option.bind_some]
  cases readCodes rest <;> rfl

/-- A letter behind a backslash stands for the character that it escapes. -/
theorem readCodes_escaped {char letter : Char} (escaped : escapeLetter? char = some letter)
    (rest : Text) :
    readCodes ('\\' :: letter :: rest) = (readCodes rest).map (prepend [char.toNat]) := by
  have named : letter ≠ 'u' ∧ escapedCode? letter = some char.toNat := by
    unfold escapeLetter? at escaped
    split at escaped <;> first | contradiction | (cases escaped; decide)
  rw [readCodes]
  · simp only [named.2, Option.bind_eq_bind, Option.bind_some]
    cases readCodes rest <;> rfl
  · intro _ _ _ _ _ same
    exact absurd same named.1

theorem readCodes_printable {char : Char} (quoted : char ≠ '"') (marked : char ≠ '\\')
    (printable : 32 ≤ char.toNat) (rest : Text) :
    readCodes (char :: rest) = (readCodes rest).map (prepend [char.toNat]) := by
  rw [readCodes]
  · simp only [show ¬char.toNat < 32 by omega, if_false]
    cases readCodes rest <;> rfl
  · exact quoted
  · intro _ _ _ _ _ same
    exact absurd same marked
  · intro _ _ same
    exact absurd same marked

theorem toNat_lt (char : Char) : char.toNat < 0x110000 := by
  rcases char.valid with low | high
  · exact Nat.lt_trans low (by decide)
  · exact high.2

theorem codeUnits_lt {char : Char} {unit : Nat} (member : unit ∈ codeUnits char) :
    unit < 0x10000 := by
  have valid := toNat_lt char
  unfold codeUnits at member
  split at member
  next small => rwa [List.mem_singleton.mp member]
  next large =>
    simp only [List.mem_cons, List.not_mem_nil, or_false] at member
    omega

theorem readCodes_writeUnits {units : List Nat} (each : ∀ unit ∈ units, unit < 0x10000)
    (rest : Text) :
    readCodes (units.flatMap writeUnit ++ rest) = (readCodes rest).map (prepend units) := by
  induction units with
  | nil => exact Option.map_id.symm ▸ rfl
  | cons unit units ih =>
    rw [List.flatMap_cons, List.append_assoc, readCodes_writeUnit (each unit List.mem_cons_self),
      ih fun other member => each other (List.mem_cons_of_mem _ member), Option.map_map]
    rfl

/-- A written character is read as its code units. -/
theorem readCodes_writeChar (char : Char) (rest : Text) :
    readCodes (writeChar char ++ rest) = (readCodes rest).map (prepend (codeUnits char)) := by
  cases escaped : escapeLetter? char with
  | some letter =>
    have single : codeUnits char = [char.toNat] := by
      unfold escapeLetter? at escaped
      split at escaped <;> first | rfl | cases escaped
    simp only [writeChar, escaped, single]
    exact readCodes_escaped escaped rest
  | none =>
    simp only [writeChar, escaped]
    split
    next printable =>
      have single : codeUnits char = [char.toNat] := by
        simp only [codeUnits, show char.toNat < 0x10000 by omega, if_true]
      rw [single]
      apply readCodes_printable _ _ printable.1
      · rintro rfl
        cases escaped
      · rintro rfl
        cases escaped
    next => exact readCodes_writeUnits (fun _ => codeUnits_lt) rest

theorem readCodes_writeText (text rest : Text) :
    readCodes (text.flatMap writeChar ++ '"' :: rest) = some (text.flatMap codeUnits, rest) := by
  induction text with
  | nil => simp [readCodes]
  | cons char text ih =>
    rw [List.flatMap_cons, List.append_assoc, readCodes_writeChar, ih]
    rfl

theorem not_half (char : Char) : ¬(0xD800 ≤ char.toNat ∧ char.toNat < 0xE000) := by
  rintro ⟨least, most⟩
  rcases char.valid with low | high
  · exact absurd low (Nat.not_lt.mpr least)
  · exact absurd high.1 (Nat.not_lt.mpr (Nat.le_of_lt_succ most))

theorem codeChar_toNat (char : Char) : codeChar char.toNat = char := by
  rw [codeChar, if_neg (not_half char)]
  exact Char.ofNat_toNat char

theorem joinHalves_cons (char : Char) (codes : List Nat) :
    joinHalves (char.toNat :: codes) = char :: joinHalves codes := by
  cases codes with
  | nil => simp only [joinHalves, codeChar_toNat]
  | cons low codes =>
    have whole : ¬((0xD800 ≤ char.toNat ∧ char.toNat < 0xDC00) ∧ 0xDC00 ≤ low ∧ low < 0xE000) := by
      have half := not_half char
      omega
    rw [joinHalves, if_neg whole, codeChar_toNat]

theorem joinHalves_codeUnits (text : Text) : joinHalves (text.flatMap codeUnits) = text := by
  induction text with
  | nil => rfl
  | cons char text ih =>
    rw [List.flatMap_cons, codeUnits]
    split
    next small => rw [List.singleton_append, joinHalves_cons, ih]
    next large =>
      have valid := toNat_lt char
      have halves : (0xD800 ≤ 0xD800 + (char.toNat - 0x10000) / 0x400 ∧
          0xD800 + (char.toNat - 0x10000) / 0x400 < 0xDC00) ∧
          0xDC00 ≤ 0xDC00 + (char.toNat - 0x10000) % 0x400 ∧
          0xDC00 + (char.toNat - 0x10000) % 0x400 < 0xE000 := by
        omega
      have joined : 0x10000 + (0xD800 + (char.toNat - 0x10000) / 0x400 - 0xD800) * 0x400 +
          (0xDC00 + (char.toNat - 0x10000) % 0x400 - 0xDC00) = char.toNat := by
        omega
      rw [List.cons_append, List.singleton_append, joinHalves, if_pos halves, joined, ih,
        Char.ofNat_toNat]

/-! ## Numbers -/

/-- Whether nothing, a comma or a closing bracket comes next: what stands behind a written value. -/
def Closes (rest : Text) : Prop :=
  ∀ char ∈ rest.head?, char ∈ [',', ']', '\x7d']

theorem closes_nil : Closes [] := by
  simp [Closes]

theorem closes_cons {char : Char} (closing : char ∈ [',', ']', '\x7d']) (rest : Text) :
    Closes (char :: rest) := by
  simpa [Closes] using closing

/-- Whether what stands behind a number does not go on with it. -/
def EndsNumber (rest : Text) : Prop :=
  ∀ char ∈ rest.head?, char.isDigit = false ∧ char ≠ '.' ∧ ¬(char = 'e' ∨ char = 'E')

/-- What may follow a value is no part of a number. -/
theorem Closes.ends {rest : Text} (closes : Closes rest) : EndsNumber rest := by
  intro char next
  have member := closes char next
  simp only [List.mem_cons, List.not_mem_nil, or_false] at member
  rcases member with rfl | rfl | rfl <;> decide

theorem EndsNumber.readFraction {rest : Text} (ends : EndsNumber rest) :
    readFraction rest = ([], rest) := by
  cases rest with
  | nil => rfl
  | cons char rest => simp [Json.readFraction, (ends char rfl).2.1]

theorem EndsNumber.readExponent {rest : Text} (ends : EndsNumber rest) :
    readExponent rest = (none, rest) := by
  cases rest with
  | nil => rfl
  | cons char rest => simp only [Json.readExponent, if_neg (ends char rfl).2.2]

/-- Digits are taken up to the first character that is none. -/
theorem takeDigits_append {digits rest : Text} (each : ∀ char ∈ digits, char.isDigit = true)
    (stops : ∀ char ∈ rest.head?, char.isDigit = false) :
    takeDigits (digits ++ rest) = (digits, rest) := by
  have stop : rest.takeWhile Char.isDigit = [] ∧ rest.dropWhile Char.isDigit = rest := by
    cases rest with
    | nil => exact ⟨rfl, rfl⟩
    | cons char rest => simp [stops char rfl]
  rw [takeDigits, List.takeWhile_append_of_pos each, List.dropWhile_append_of_pos each, stop.1,
    stop.2, List.append_nil]

/-- In front of the point, digits without idle zeros are read. -/
theorem readWhole?_append {digits rest : Text} (each : ∀ char ∈ digits, char.isDigit = true)
    (spoken : digits ≠ []) (unpadded : digits = ['0'] ∨ digits.head? ≠ some '0')
    (stops : ∀ char ∈ rest.head?, char.isDigit = false) :
    readWhole? (digits ++ rest) = some (digits, rest) := by
  rcases unpadded with rfl | leading
  · rfl
  · have taken := takeDigits_append each stops
    cases digits with
    | nil => exact absurd rfl spoken
    | cons char digits =>
      rw [readWhole?]
      · simp only [taken]
      · intro _ same
        exact leading (congrArg some (List.cons.inj same).1)

theorem readWhole?_digitsOf (number : Nat) {rest : Text} (closes : Closes rest) :
    readWhole? (Number.digitsOf number ++ rest) = some (Number.digitsOf number, rest) := by
  refine readWhole?_append (fun _ => Number.isDigit_of_mem_digitsOf)
    (Number.digitsOf_ne_nil number) ?_ fun _ next => (closes.ends _ next).1
  rcases Nat.eq_zero_or_pos number with rfl | positive
  · exact .inl rfl
  · exact .inr (Number.head_digitsOf_ne_zero positive)

theorem readNumber_digitsOf (negative : Bool) (number : Nat)
    (short : (Number.digitsOf number).length ≤ digitLimit) {rest : Text} (closes : Closes rest) :
    readNumber negative (Number.digitsOf number ++ rest) =
      some (.integer (if negative then -(number : Int) else number), rest) := by
  simp [readNumber, readWhole?_digitsOf number closes, closes.ends.readFraction,
    closes.ends.readExponent, short, Number.digitsValue_digitsOf, guard]

theorem readScalar_digit {char : Char} (digit : char.isDigit = true) (rest : Text) :
    readScalar (char :: rest) = readNumber false (char :: rest) := by
  rw [readScalar]
  case x_1 => exact List.cons_ne_nil char rest
  all_goals
    intro _ same
    cases same
    cases digit

theorem readScalar_minus {char : Char} (digit : char.isDigit = true) (rest : Text) :
    readScalar ('-' :: char :: rest) = readNumber true (char :: rest) := by
  rw [readScalar]
  rintro _ same
  cases same
  cases digit

theorem readScalar_showInteger {value : Int}
    (short : (Number.digitsOf value.natAbs).length ≤ digitLimit) {rest : Text}
    (closes : Closes rest) :
    readScalar (Number.showInteger value ++ rest) = some (.integer value, rest) := by
  cases value with
  | ofNat number =>
    have read := readNumber_digitsOf false number short closes
    rcases Number.exists_cons_digitsOf number with ⟨char, digits, written, digit⟩
    rw [written, List.cons_append, ← readScalar_digit digit, ← List.cons_append, ← written] at read
    exact read
  | negSucc number =>
    have read := readNumber_digitsOf true (number + 1) short closes
    rcases Number.exists_cons_digitsOf (number + 1) with ⟨char, digits, written, digit⟩
    rw [written, List.cons_append, ← readScalar_minus digit, ← List.cons_append, ← written] at read
    exact read

/-! ## Between the values -/

theorem skipSpace_of_ne (char : Char) (solid : char ∉ [' ', '\t', '\n', '\r']) (rest : Text) :
    skipSpace (char :: rest) = char :: rest := by
  rw [skipSpace, List.dropWhile_cons_of_neg]
  intro blank
  simp only [Bool.or_eq_true, decide_eq_true_eq] at blank
  apply solid
  rcases blank with ((rfl | rfl) | rfl) | rfl <;> decide

theorem skipSpace_blank (rest : Text) : skipSpace (' ' :: rest) = skipSpace rest :=
  rfl

/-- A written value begins with none of the characters that are looked for in front of a value. -/
def Begins (text : Text) : Prop :=
  ∃ char rest, text = char :: rest ∧ char ∉ [' ', '\t', '\n', '\r', ']', '\x7d']

theorem Begins.append {text : Text} (begins : Begins text) (rest : Text) :
    Begins (text ++ rest) := by
  rcases begins with ⟨char, tail, rfl, solid⟩
  exact ⟨char, tail ++ rest, rfl, solid⟩

theorem Begins.writeItems {item : Json} (begins : Begins item.write) (items : List Json) :
    Begins (writeItems (item :: items)) := by
  cases items with
  | nil => exact begins
  | cons next items => exact begins.append _

theorem begins_writeFields (field : Text × Json) (fields : List (Text × Json)) :
    Begins (writeFields (field :: fields)) := by
  cases fields <;> exact ⟨'"', _, rfl, by decide⟩

theorem skipSpace_of_begins {text : Text} (begins : Begins text) (rest : Text) :
    skipSpace (text ++ rest) = text ++ rest := by
  rcases begins with ⟨char, tail, rfl, solid⟩
  apply skipSpace_of_ne char
  exact fun blank => solid (List.mem_append_left [']', '\x7d'] blank)

/-- What begins like a value does not close an array or an object without items. -/
theorem Begins.filled {text : Text} (begins : Begins text) (rest : Text) :
    (∀ behind, skipSpace (text ++ rest) ≠ ']' :: behind) ∧
      ∀ behind, skipSpace (text ++ rest) ≠ '\x7d' :: behind := by
  rw [skipSpace_of_begins begins]
  rcases begins with ⟨char, tail, rfl, solid⟩
  constructor <;>
    (rintro behind same
     rw [(List.cons.inj same).1] at solid
     exact solid (by decide))

/-! ## Values -/

/-- Whatever follows, the reader takes a value off the front of a text that begins with it. -/
structure IsRead (depth : Nat) (value : Json) : Prop where
  begins : Begins value.write
  read : ∀ fuel rest, 2 * value.write.length ≤ fuel → Closes rest →
    readValue fuel depth (value.write ++ rest) = some (value, rest)

theorem readItems_writeItems {depth : Nat} {items : List Json} (filled : items ≠ [])
    (each : ∀ item ∈ items, IsRead depth item) (fuel : Nat)
    (enough : 2 * (writeItems items).length + 1 ≤ fuel) (rest : Text) :
    readItems fuel depth (writeItems items ++ ']' :: rest) = some (items, rest) := by
  induction items generalizing fuel with
  | nil => exact absurd rfl filled
  | cons item items ih =>
    have first := each item List.mem_cons_self
    obtain ⟨fuel, rfl⟩ : ∃ less, fuel = less + 1 := ⟨fuel - 1, by omega⟩
    cases items with
    | nil =>
      rw [writeItems] at enough ⊢
      have read := first.read fuel (']' :: rest) (by omega) (closes_cons (by decide) rest)
      simp only [readItems, read, skipSpace_of_ne ']' (by decide)]
    | cons next items =>
      rw [writeItems] at enough ⊢
      have lengths : (item.write ++ ',' :: ' ' :: writeItems (next :: items)).length =
          item.write.length + (writeItems (next :: items)).length + 2 := by
        simp only [List.length_append, List.length_cons]
        omega
      have others := ih (List.cons_ne_nil next items)
        (fun other member => each other (List.mem_cons_of_mem _ member)) fuel (by omega)
      have read := first.read fuel (',' :: ' ' :: (writeItems (next :: items) ++ ']' :: rest))
        (by omega) (closes_cons (by decide) _)
      have begins : Begins (writeItems (next :: items)) :=
        (each next (by simp)).begins.writeItems items
      simp only [List.append_assoc, List.cons_append, readItems, read,
        skipSpace_of_ne ',' (by decide), skipSpace_blank, skipSpace_of_begins begins,
        others, Option.map_some]

theorem readFields_writeFields {depth : Nat} {fields : List (Text × Json)} (filled : fields ≠ [])
    (each : ∀ field ∈ fields, IsRead depth field.2) (fuel : Nat)
    (enough : 2 * (writeFields fields).length + 1 ≤ fuel) (rest : Text) :
    readFields fuel depth (writeFields fields ++ '\x7d' :: rest) = some (fields, rest) := by
  induction fields generalizing fuel with
  | nil => exact absurd rfl filled
  | cons field fields ih =>
    rcases field with ⟨name, value⟩
    have first : IsRead depth value := each (name, value) List.mem_cons_self
    obtain ⟨fuel, rfl⟩ : ∃ less, fuel = less + 1 := ⟨fuel - 1, by omega⟩
    cases fields with
    | nil =>
      rw [writeFields] at enough ⊢
      simp only [List.length_append, List.length_cons] at enough
      have read := first.read fuel ('\x7d' :: rest) (by omega) (closes_cons (by decide) rest)
      simp only [writeText, List.append_assoc, List.cons_append, List.nil_append, readFields,
        readCodes_writeText, skipSpace_of_ne ':' (by decide), skipSpace_blank,
        skipSpace_of_begins first.begins, read, skipSpace_of_ne '\x7d' (by decide),
        joinHalves_codeUnits]
    | cons next fields =>
      rw [writeFields] at enough ⊢
      simp only [List.length_append, List.length_cons] at enough
      have others := ih (List.cons_ne_nil next fields)
        (fun other member => each other (List.mem_cons_of_mem _ member)) fuel (by omega)
      have read := first.read fuel
        (',' :: ' ' :: (writeFields (next :: fields) ++ '\x7d' :: rest))
        (by omega) (closes_cons (by decide) _)
      simp only [writeText, List.append_assoc, List.cons_append, List.nil_append, readFields,
        readCodes_writeText, skipSpace_of_ne ':' (by decide), skipSpace_blank,
        skipSpace_of_begins first.begins, read, skipSpace_of_ne ',' (by decide),
        skipSpace_of_begins (begins_writeFields next fields), joinHalves_codeUnits, others,
        Option.map_some]

theorem setField_of_ne {name : Text} {known : List (Text × Json)}
    (fresh : name ∉ known.map Prod.fst) (value : Json) :
    setField name value known = known ++ [(name, value)] := by
  induction known with
  | nil => rfl
  | cons field known ih =>
    rw [List.map_cons, List.mem_cons, not_or] at fresh
    rw [setField, if_neg (Ne.symm fresh.1), ih fresh.2, List.cons_append]

theorem foldl_setField {fields : List (Text × Json)} (known : List (Text × Json))
    (distinct : ((known ++ fields).map Prod.fst).Nodup) :
    fields.foldl (fun known field => setField field.1 field.2 known) known = known ++ fields := by
  induction fields generalizing known with
  | nil => rw [List.append_nil, List.foldl_nil]
  | cons field fields ih =>
    have fresh : field.1 ∉ known.map Prod.fst := by
      rw [List.map_append, List.nodup_append] at distinct
      exact fun member => distinct.2.2 _ member _ List.mem_cons_self rfl
    rw [List.foldl_cons, setField_of_ne fresh, ih, List.append_assoc, List.singleton_append]
    rwa [List.append_assoc, List.singleton_append]

theorem readValue_scalar {char : Char} (scalar : char ∉ ['"', '[', '\x7b']) (fuel depth : Nat)
    (rest : Text) : readValue (fuel + 1) depth (char :: rest) = readScalar (char :: rest) := by
  rw [readValue]
  all_goals
    intro _ same
    cases same
    exact scalar (by decide)

/-- A word or a number is read without regard to fuel and depth. -/
theorem IsRead.of_scalar {value : Json} (depth : Nat) (begins : Begins value.write)
    (scalar : ∀ char ∈ value.write.head?, char ∉ ['"', '[', '\x7b'])
    (read : ∀ rest, Closes rest → readScalar (value.write ++ rest) = some (value, rest)) :
    IsRead depth value := by
  refine ⟨begins, ?_⟩
  intro fuel rest enough closes
  have found := read rest closes
  rcases begins with ⟨char, tail, written, -⟩
  rw [written] at scalar enough found ⊢
  rw [List.length_cons] at enough
  obtain ⟨fuel, rfl⟩ : ∃ less, fuel = less + 1 := ⟨fuel - 1, by omega⟩
  rw [List.cons_append, readValue_scalar (scalar char rfl)]
  exact found

theorem IsRead.null (depth : Nat) : IsRead depth .null := by
  apply IsRead.of_scalar depth
  · exact ⟨_, _, rfl, by decide⟩
  · simp [write]
  · intro rest _
    rfl

theorem IsRead.boolean (depth : Nat) (value : Bool) : IsRead depth (.boolean value) := by
  cases value <;> apply IsRead.of_scalar depth
  case false.begins | true.begins => exact ⟨_, _, rfl, by decide⟩
  case false.scalar | true.scalar => simp [write]
  case false.read | true.read =>
    intro rest _
    rfl

theorem IsRead.integer (depth : Nat) {value : Int}
    (writable : (Json.integer value).isWritable = true) : IsRead depth (.integer value) := by
  have short : (Number.digitsOf value.natAbs).length ≤ digitLimit := by
    simpa [isWritable] using writable
  have known : ∀ mark ∈ [' ', '\t', '\n', '\r', ']', '\x7d', '"', '[', '\x7b'],
      mark.isDigit = false := by simp
  have solid : ∃ char rest, (Json.integer value).write = char :: rest ∧
      char ∉ [' ', '\t', '\n', '\r', ']', '\x7d', '"', '[', '\x7b'] := by
    cases value with
    | ofNat number =>
      rcases Number.exists_cons_digitsOf number with ⟨char, digits, written, digit⟩
      refine ⟨char, digits, written, ?_⟩
      intro member
      exact absurd digit (by simp [known char member])
    | negSucc number => exact ⟨_, _, rfl, by decide⟩
  rcases solid with ⟨char, tail, written, solid⟩
  apply IsRead.of_scalar depth
  · refine ⟨char, tail, written, ?_⟩
    exact fun member => solid (List.mem_append_left ['"', '[', '\x7b'] member)
  · rw [written]
    rintro _ ⟨⟩ member
    exact solid (List.mem_append_right [' ', '\t', '\n', '\r', ']', '\x7d'] member)
  · intro rest closes
    exact readScalar_showInteger short closes

theorem IsRead.text (depth : Nat) (value : Text) : IsRead depth (.text value) := by
  refine ⟨⟨_, _, rfl, by decide⟩, ?_⟩
  intro fuel rest enough closes
  simp only [write, writeText, List.length_append, List.length_cons] at enough
  obtain ⟨fuel, rfl⟩ : ∃ less, fuel = less + 1 := ⟨fuel - 1, by omega⟩
  simp only [write, writeText, List.cons_append, List.append_assoc, List.nil_append, readValue,
    readCodes_writeText, Option.map_some, joinHalves_codeUnits]

theorem IsRead.array {depth : Nat} {items : List Json} (each : ∀ item ∈ items, IsRead depth item) :
    IsRead (depth + 1) (.array items) := by
  refine ⟨⟨_, _, rfl, by decide⟩, ?_⟩
  intro fuel rest enough closes
  simp only [write, List.length_append, List.length_cons, List.length_nil] at enough
  obtain ⟨fuel, rfl⟩ : ∃ less, fuel = less + 1 := ⟨fuel - 1, by omega⟩
  cases items with
  | nil => rfl
  | cons item items =>
    have begins : Begins (writeItems (item :: items)) :=
      (each item List.mem_cons_self).begins.writeItems items
    have read := readItems_writeItems (List.cons_ne_nil item items) each fuel (by omega)
      rest
    simp only [write, List.cons_append, List.append_assoc, List.nil_append, readValue]
    split
    next none => cases none
    next closed => exact absurd closed ((begins.filled _).1 _)
    next same _ =>
      cases same
      rw [skipSpace_of_begins begins, read, Option.map_some]

theorem IsRead.object {depth : Nat} {fields : List (Text × Json)}
    (each : ∀ field ∈ fields, IsRead depth field.2) (distinct : (fields.map Prod.fst).Nodup) :
    IsRead (depth + 1) (.object fields) := by
  refine ⟨⟨_, _, rfl, by decide⟩, ?_⟩
  intro fuel rest enough closes
  simp only [write, List.length_append, List.length_cons, List.length_nil] at enough
  obtain ⟨fuel, rfl⟩ : ∃ less, fuel = less + 1 := ⟨fuel - 1, by omega⟩
  cases fields with
  | nil => rfl
  | cons field fields =>
    have begins := begins_writeFields field fields
    have read := readFields_writeFields (List.cons_ne_nil field fields) each fuel (by omega)
      rest
    have collected := foldl_setField [] distinct
    simp only [write, List.cons_append, List.append_assoc, List.nil_append, readValue]
    split
    next none => cases none
    next closed => exact absurd closed ((begins.filled _).2 _)
    next same _ =>
      cases same
      simp only [skipSpace_of_begins begins, read, Option.map_some, collected, List.nil_append]

/-! ## Plain values -/

/-- Values that their text gives back: none of their numbers is a double, the fields of an object
have different names, and containers are nested so deep at most. -/
inductive Plain : Nat → Json → Prop
  | null (depth : Nat) : Plain depth .null
  | boolean (depth : Nat) (value : Bool) : Plain depth (.boolean value)
  | integer (depth : Nat) (value : Int) : Plain depth (.integer value)
  | text (depth : Nat) (value : Text) : Plain depth (.text value)
  | array {depth : Nat} {items : List Json} (each : ∀ item ∈ items, Plain depth item) :
      Plain (depth + 1) (.array items)
  | object {depth : Nat} {fields : List (Text × Json)}
      (each : ∀ field ∈ fields, Plain depth field.2)
      (distinct : (fields.map Prod.fst).Nodup) : Plain (depth + 1) (.object fields)

theorem isWritable_of_mem_items {items : List Json} (writable : itemsWritable items = true) :
    ∀ item ∈ items, item.isWritable = true := by
  induction items with
  | nil => simp
  | cons item items ih =>
    rw [itemsWritable, Bool.and_eq_true] at writable
    exact List.forall_mem_cons.mpr ⟨writable.1, ih writable.2⟩

theorem isWritable_of_mem_fields {fields : List (Text × Json)}
    (writable : fieldsWritable fields = true) : ∀ field ∈ fields, field.2.isWritable = true := by
  induction fields with
  | nil => simp
  | cons field fields ih =>
    rw [fieldsWritable, Bool.and_eq_true] at writable
    exact List.forall_mem_cons.mpr ⟨writable.1, ih writable.2⟩

theorem Plain.read {depth : Nat} {value : Json} (plain : Plain depth value)
    (writable : value.isWritable = true) : IsRead depth value := by
  induction plain with
  | null depth => exact IsRead.null depth
  | boolean depth value => exact IsRead.boolean depth value
  | integer depth value => exact IsRead.integer depth writable
  | text depth value => exact IsRead.text depth value
  | array each ih =>
    rw [isWritable] at writable
    apply IsRead.array
    intro item member
    exact ih item member (isWritable_of_mem_items writable item member)
  | object each distinct ih =>
    rw [isWritable] at writable
    apply IsRead.object _ distinct
    intro field member
    exact ih field member (isWritable_of_mem_fields writable field member)

theorem Plain.read?_write {value : Json} (plain : Plain nestingLimit value)
    (writable : value.isWritable = true) : read? value.write = some value := by
  have taken := plain.read writable
  have read := taken.read (2 * value.write.length + 2) [] (by omega) closes_nil
  have start := skipSpace_of_begins taken.begins []
  rw [List.append_nil] at read start
  rw [read?, start, read]
  rfl

end StepScript.Json
