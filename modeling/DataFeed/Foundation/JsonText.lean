import DataFeed.Foundation.Digits

/-! # JSON texts

A parser of JSON texts, byte by byte, and the text without white space of a tree. Parsing
what a tree is rendered as gives the tree back (`parse_render`), so two trees with the same
text are the same. Numbers are kept as they are spelled.
-/

namespace Foundation

/-- What a JSON text stands for. -/
inductive JsonTree where
  | null
  | boolean (value : Bool)
  | number (literal : List UInt8)
  | string (text : List UInt8)
  | array (elements : List JsonTree)
  | object (members : List (List UInt8 × JsonTree))

namespace JsonText

/-! ## Tokens -/

def isSpace (byte : UInt8) : Bool := byte = 32 || byte = 9 || byte = 10 || byte = 13

/-- What follows the white space at the front. -/
def skip (text : List UInt8) : List UInt8 := text.dropWhile isSpace

/-- What follows a byte that must come next. -/
def expect (byte : UInt8) (text : List UInt8) : Option (List UInt8) :=
  match skip text with
  | [] => none
  | first :: rest => if first = byte then some rest else none

/-- The value of a hexadecimal digit. -/
def hexValue (byte : UInt8) : Option Nat :=
  if 48 ≤ byte && byte ≤ 57 then some (byte.toNat - 48)
  else if 65 ≤ byte && byte ≤ 70 then some (byte.toNat - 55)
  else if 97 ≤ byte && byte ≤ 102 then some (byte.toNat - 87)
  else none

/-- The number of four hexadecimal digits. -/
def hexQuad : List UInt8 → Option (Nat × List UInt8)
  | first :: second :: third :: fourth :: rest => do
      let high ← hexValue first
      let middle ← hexValue second
      let low ← hexValue third
      let last ← hexValue fourth
      return (((high * 16 + middle) * 16 + low) * 16 + last, rest)
  | _ => none

/-- The bytes of a character that is given by its number, or by two halves of one. -/
def unicode (text : List UInt8) : Option (List UInt8 × List UInt8) :=
  (hexQuad text).bind fun (code, rest) =>
    if 0xD800 ≤ code ∧ code < 0xDC00 then
      match rest with
      | 92 :: 117 :: rest =>
          (hexQuad rest).bind fun (low, rest) =>
            if 0xDC00 ≤ low ∧ low < 0xE000 then
              some (String.utf8EncodeChar
                (Char.ofNat (0x10000 + (code - 0xD800) * 0x400 + (low - 0xDC00))), rest)
            else none
      | _ => none
    else if 0xDC00 ≤ code ∧ code < 0xE000 then none
    else some (String.utf8EncodeChar (Char.ofNat code), rest)

/-- The byte that a letter after a backslash stands for. -/
def unescape (letter : UInt8) : Option UInt8 :=
  if letter = 34 ∨ letter = 92 ∨ letter = 47 then some letter
  else if letter = 98 then some 8
  else if letter = 102 then some 12
  else if letter = 110 then some 10
  else if letter = 114 then some 13
  else if letter = 116 then some 9
  else none

/-- The text of a string up to its closing quote, and what follows that. -/
def stringBody : Nat → List UInt8 → Option (List UInt8 × List UInt8)
  | 0, _ | _ + 1, [] => none
  | fuel + 1, byte :: rest =>
      if byte = 34 then some ([], rest)
      else if byte = 92 then
        match rest with
        | [] => none
        | letter :: rest =>
            (if letter = 117 then unicode rest
              else (unescape letter).map fun byte => ([byte], rest)).bind fun (text, rest) =>
                (stringBody fuel rest).map fun (more, rest) => (text ++ more, rest)
      else if byte < 32 then none
      else (stringBody fuel rest).map fun (more, rest) => (byte :: more, rest)

/-- Reads a string, quotes and all. -/
def string (text : List UInt8) : Option (List UInt8 × List UInt8) :=
  (expect 34 text).bind fun rest => stringBody rest.length rest

/-- A byte that numbers are made of. -/
def isNumberByte (byte : UInt8) : Bool :=
  isDigit byte || byte = 43 || byte = 45 || byte = 46 || byte = 69 || byte = 101

/-- An exponent, or nothing. -/
def validExponent : List UInt8 → Bool
  | [] => true
  | mark :: rest =>
      let digits := if rest.head? = some 43 ∨ rest.head? = some 45 then rest.tail else rest
      (mark = 69 || mark = 101) && !digits.isEmpty && digits.all isDigit

/-- A fraction and an exponent, or either, or nothing. -/
def validFraction (text : List UInt8) : Bool :=
  match text with
  | 46 :: rest =>
      !(leadingDigits rest).isEmpty && validExponent (rest.drop (leadingDigits rest).length)
  | _ => validExponent text

/-- A number as it may be spelled: without leading zeros. -/
def validNumber (literal : List UInt8) : Bool :=
  let unsigned := if literal.head? = some 45 then literal.tail else literal
  let whole := leadingDigits unsigned
  !whole.isEmpty && (whole.head? ≠ some 48 || whole.length = 1) &&
    validFraction (unsigned.drop whole.length)

/-- Reads a number. -/
def number (text : List UInt8) : Option (List UInt8 × List UInt8) :=
  let literal := text.takeWhile isNumberByte
  if validNumber literal then some (literal, text.drop literal.length) else none

/-! ## Trees -/

mutual

/-- Reads a value. Every value, and every further part of one, has a byte of its own, so
as much fuel as there are bytes is enough. -/
def value : Nat → List UInt8 → Option (JsonTree × List UInt8)
  | 0, _ => none
  | fuel + 1, text =>
      match skip text with
      | [] => none
      | byte :: rest =>
          if byte = 123 then
            match expect 125 rest with
            | some rest => some (.object [], rest)
            | none =>
                (string rest).bind fun (name, rest) =>
                  (expect 58 rest).bind fun rest =>
                    (value fuel rest).bind fun (first, rest) =>
                      (moreMembers fuel rest).map fun (more, rest) =>
                        (.object ((name, first) :: more), rest)
          else if byte = 91 then
            match expect 93 rest with
            | some rest => some (.array [], rest)
            | none =>
                (value fuel rest).bind fun (first, rest) =>
                  (moreElements fuel rest).map fun (more, rest) => (.array (first :: more), rest)
          else if byte = 34 then
            (stringBody rest.length rest).map fun (text, rest) => (.string text, rest)
          else if [110, 117, 108, 108].isPrefixOf (byte :: rest) then some (.null, rest.drop 3)
          else if [116, 114, 117, 101].isPrefixOf (byte :: rest) then
            some (.boolean true, rest.drop 3)
          else if [102, 97, 108, 115, 101].isPrefixOf (byte :: rest) then
            some (.boolean false, rest.drop 4)
          else (number (byte :: rest)).map fun (literal, rest) => (.number literal, rest)

/-- Reads the elements after the first. -/
def moreElements : Nat → List UInt8 → Option (List JsonTree × List UInt8)
  | 0, _ => none
  | fuel + 1, text =>
      match expect 93 text with
      | some rest => some ([], rest)
      | none =>
          (expect 44 text).bind fun rest =>
            (value fuel rest).bind fun (next, rest) =>
              (moreElements fuel rest).map fun (more, rest) => (next :: more, rest)

/-- Reads the members after the first. -/
def moreMembers : Nat → List UInt8 → Option (List (List UInt8 × JsonTree) × List UInt8)
  | 0, _ => none
  | fuel + 1, text =>
      match expect 125 text with
      | some rest => some ([], rest)
      | none =>
          (expect 44 text).bind fun rest =>
            (string rest).bind fun (name, rest) =>
              (expect 58 rest).bind fun rest =>
                (value fuel rest).bind fun (next, rest) =>
                  (moreMembers fuel rest).map fun (more, rest) => ((name, next) :: more, rest)

end

/-- What a text stands for, if it is a JSON text. -/
def parse (text : List UInt8) : Option JsonTree :=
  (value text.length text).bind fun (tree, rest) => if skip rest = [] then some tree else none

/-! ## Texts -/

/-- A hexadecimal digit. -/
def hexDigit (digit : Nat) : UInt8 := UInt8.ofNat (if digit < 10 then 48 + digit else 55 + digit)

/-- A byte as it is spelled in a string. -/
def escape (byte : UInt8) : List UInt8 :=
  if byte = 34 ∨ byte = 92 then [92, byte]
  else if byte < 32 then
    [92, 117, 48, 48, hexDigit (byte.toNat / 16), hexDigit (byte.toNat % 16)]
  else [byte]

/-- A string, quotes and all. -/
def renderString (text : List UInt8) : List UInt8 := 34 :: (text.flatMap escape ++ [34])

mutual

/-- The text of a tree, without white space. -/
def render : JsonTree → List UInt8
  | .null => [110, 117, 108, 108]
  | .boolean true => [116, 114, 117, 101]
  | .boolean false => [102, 97, 108, 115, 101]
  | .number literal => literal
  | .string text => renderString text
  | .array [] => [91, 93]
  | .array (first :: more) => 91 :: (render first ++ renderElements more)
  | .object [] => [123, 125]
  | .object ((name, first) :: more) =>
      123 :: (renderString name ++ 58 :: (render first ++ renderMembers more))

/-- The elements after the first. -/
def renderElements : List JsonTree → List UInt8
  | [] => [93]
  | next :: more => 44 :: (render next ++ renderElements more)

/-- The members after the first. -/
def renderMembers : List (List UInt8 × JsonTree) → List UInt8
  | [] => [125]
  | (name, next) :: more =>
      44 :: (renderString name ++ 58 :: (render next ++ renderMembers more))

end

mutual

/-- Every number is spelled as numbers are. -/
def Spelled : JsonTree → Prop
  | .null | .boolean _ | .string _ => True
  | .number literal => validNumber literal = true ∧ literal.all isNumberByte = true
  | .array elements => SpelledElements elements
  | .object members => SpelledMembers members

def SpelledElements : List JsonTree → Prop
  | [] => True
  | next :: more => Spelled next ∧ SpelledElements more

def SpelledMembers : List (List UInt8 × JsonTree) → Prop
  | [] => True
  | (_, next) :: more => Spelled next ∧ SpelledMembers more

end

/-! ## Parsing what is rendered -/

section Tokens

variable {byte : UInt8} {text rest : List UInt8}

/-- Nothing is skipped in front of a byte that is no space. -/
theorem skip_cons (visible : isSpace byte = false) : skip (byte :: rest) = byte :: rest :=
  List.dropWhile_cons_of_neg (Bool.not_eq_true _ ▸ visible)

/-- A byte that is no space is read where it is expected. -/
theorem expect_self (visible : isSpace byte = false) : expect byte (byte :: rest) = some rest := by
  rw [expect, skip_cons visible]
  exact if_pos rfl

/-- A byte that is neither a space nor the expected one is refused. -/
theorem expect_other {first : UInt8} (visible : isSpace first = false) (other : first ≠ byte) :
    expect byte (first :: rest) = none := by
  rw [expect, skip_cons visible]
  exact if_neg other

/-- Reading a hexadecimal digit back gives its value. -/
theorem hexValue_hexDigit : ∀ digit < 16, hexValue (hexDigit digit) = some digit := by
  decide

/-- A control character is one byte in UTF-8. -/
theorem utf8_control : ∀ code < 32, String.utf8EncodeChar (Char.ofNat code) = [UInt8.ofNat code] := by
  decide

/-- A control character is given by its number. -/
theorem unicode_control (control : byte < 32) :
    unicode (48 :: 48 :: hexDigit (byte.toNat / 16) :: hexDigit (byte.toNat % 16) :: rest) =
      some ([byte], rest) := by
  have small : byte.toNat < 32 := control
  have zero : hexValue 48 = some 0 := by decide
  have code : ((0 * 16 + 0) * 16 + byte.toNat / 16) * 16 + byte.toNat % 16 = byte.toNat := by
    omega
  have quad : hexQuad (48 :: 48 :: hexDigit (byte.toNat / 16) :: hexDigit (byte.toNat % 16) ::
      rest) = some (byte.toNat, rest) := by
    simp only [hexQuad, zero, hexValue_hexDigit _ (show byte.toNat / 16 < 16 by omega),
      hexValue_hexDigit _ (show byte.toNat % 16 < 16 by omega), Option.bind_eq_bind,
      Option.bind_some, Option.pure_def, code]
  rw [unicode, quad, Option.bind_some]
  dsimp only
  rw [if_neg (by omega), if_neg (by omega), utf8_control _ small, UInt8.ofNat_toNat]

/-- A byte is read as it is spelled. -/
theorem stringBody_escape {fuel : Nat} :
    stringBody (fuel + 1) (escape byte ++ rest) =
      (stringBody fuel rest).map fun (more, rest) => (byte :: more, rest) := by
  unfold escape
  split
  · rename_i special
    have letter : byte ≠ 117 := by
      rintro rfl
      exact absurd special (by decide)
    have known : unescape byte = some byte := by
      rw [unescape, if_pos (by tauto)]
    simp only [List.cons_append, List.nil_append, stringBody, if_neg letter, known,
      Option.map_some, Option.bind_some]
    rfl
  · rename_i plain
    obtain ⟨quote, slash⟩ := not_or.mp plain
    split
    · rename_i control
      simp only [List.cons_append, List.nil_append, stringBody, unicode_control control]
      rfl
    · rename_i visible
      simp only [List.cons_append, List.nil_append, stringBody, if_neg quote, if_neg slash,
        if_neg visible]

/-- A string is read as it is spelled. -/
theorem stringBody_render {fuel : Nat} (enough : text.length < fuel) :
    stringBody fuel (text.flatMap escape ++ 34 :: rest) = some (text, rest) := by
  induction text generalizing fuel with
  | nil =>
      obtain ⟨fuel, rfl⟩ := Nat.exists_eq_add_of_lt enough
      rfl
  | cons byte text ih =>
      obtain ⟨fuel, rfl⟩ : ∃ more, fuel = more + 1 :=
        Nat.exists_eq_succ_of_ne_zero (Nat.ne_of_gt (Nat.zero_lt_of_lt enough))
      rw [List.flatMap_cons, List.append_assoc, stringBody_escape,
        ih (Nat.lt_of_succ_lt_succ enough)]
      rfl

/-- Escaping shortens no text. -/
theorem length_le_escape (text : List UInt8) : text.length ≤ (text.flatMap escape).length := by
  induction text with
  | nil => exact Nat.le_refl 0
  | cons byte text ih =>
      have some_bytes : 1 ≤ (escape byte).length := by
        unfold escape
        split
        · exact Nat.le_succ 1
        · split
          · exact Nat.le_add_left 1 5
          · exact Nat.le_refl 1
      rw [List.flatMap_cons, List.length_append, List.length_cons]
      omega

/-- A rendered string is read back whole, whatever follows it. -/
theorem string_render : string (renderString text ++ rest) = some (text, rest) := by
  have quoted : renderString text ++ rest = 34 :: (text.flatMap escape ++ 34 :: rest) := by
    simp only [renderString, List.cons_append, List.append_assoc, List.nil_append]
  have short := length_le_escape text
  rw [string, quoted, expect_self (by decide), Option.bind_some, stringBody_render]
  rw [List.length_append, List.length_cons]
  omega

end Tokens

section Numbers

variable {literal rest : List UInt8}

/-- What follows a number does not go on with it. -/
def Ends (rest : List UInt8) : Prop := ∀ byte ∈ rest.head?, isNumberByte byte = false

/-- A valid number is read back whole if no byte of a number follows it. -/
theorem number_append (valid : validNumber literal = true)
    (bytes : literal.all isNumberByte = true) (ends : Ends rest) :
    number (literal ++ rest) = some (literal, rest) := by
  have whole : (literal ++ rest).takeWhile isNumberByte = literal := by
    rw [List.takeWhile_append_of_pos (List.all_eq_true.mp bytes)]
    cases rest with
    | nil => exact List.append_nil literal
    | cons byte rest =>
        rw [List.takeWhile_cons_of_neg (Bool.not_eq_true _ ▸ ends byte rfl), List.append_nil]
  rw [number, whole, if_pos valid, List.drop_left]

/-- A number begins with a digit or a sign. -/
theorem head_of_validNumber (valid : validNumber literal = true) :
    ∃ byte rest, literal = byte :: rest ∧ (byte = 45 ∨ isDigit byte = true) := by
  cases literal with
  | nil => exact absurd valid (by decide)
  | cons byte rest =>
      refine ⟨byte, rest, rfl, ?_⟩
      by_contra neither
      obtain ⟨unsigned, other⟩ := not_or.mp neither
      have positive : (byte :: rest).head? ≠ some 45 := fun same =>
        unsigned (Option.some.inj same)
      have none : leadingDigits (byte :: rest) = [] := List.takeWhile_cons_of_neg other
      rw [validNumber, if_neg positive, none] at valid
      contradiction

/-- The first byte of a number is no other byte of the grammar. -/
theorem ne_of_head {byte other : UInt8} (head : byte = 45 ∨ isDigit byte = true)
    (sign : other.toNat ≠ 45) (digit : other.toNat < 48 ∨ 57 < other.toNat) : byte ≠ other := by
  rintro rfl
  rcases head with rfl | range
  · exact sign rfl
  · have within := isDigit_iff.mp range
    omega

/-- The first byte of a number is no space. -/
theorem visible_of_head {byte : UInt8} (head : byte = 45 ∨ isDigit byte = true) :
    isSpace byte = false := by
  simp only [isSpace, ne_of_head head (show (32 : UInt8).toNat ≠ 45 by decide) (by decide),
    ne_of_head head (show (9 : UInt8).toNat ≠ 45 by decide) (by decide),
    ne_of_head head (show (10 : UInt8).toNat ≠ 45 by decide) (by decide),
    ne_of_head head (show (13 : UInt8).toNat ≠ 45 by decide) (by decide), decide_false,
    Bool.or_self]

/-- Digits are a number if the first is not a zero, or the only one. -/
theorem validNumber_of_digits {digits : List UInt8} (some_digits : digits ≠ [])
    (all : AllDigits digits) (first : digits.head? ≠ some 48 ∨ digits.length = 1) :
    validNumber digits = true := by
  have unsigned : digits.head? ≠ some 45 := by
    cases digits with
    | nil => exact (some_digits rfl).elim
    | cons byte rest =>
        intro same
        have digit := all byte List.mem_cons_self
        rw [Option.some.inj same] at digit
        exact absurd digit (by decide)
  unfold validNumber
  rw [if_neg unsigned]
  dsimp only
  rw [leadingDigits_eq all, List.drop_length]
  simp only [List.isEmpty_eq_false_iff.mpr some_digits, Bool.not_false, Bool.true_and,
    Bool.and_eq_true, Bool.or_eq_true, decide_eq_true_eq]
  exact ⟨first, rfl⟩

/-- A digit may stand in a number. -/
theorem isNumberByte_of_isDigit {byte : UInt8} (digit : isDigit byte = true) :
    isNumberByte byte = true := by
  rw [isNumberByte, digit]
  rfl

end Numbers

section Trees

/-- The elements that follow end a number. -/
theorem ends_more (more : List JsonTree) (rest : List UInt8) :
    Ends (renderElements more ++ rest) := by
  intro byte first
  cases more with
  | nil =>
      rw [renderElements] at first
      obtain rfl := Option.some.inj first
      decide
  | cons next more =>
      rw [renderElements] at first
      obtain rfl := Option.some.inj first
      decide

/-- The members that follow end a number. -/
theorem ends_moreMembers (more : List (List UInt8 × JsonTree)) (rest : List UInt8) :
    Ends (renderMembers more ++ rest) := by
  intro byte first
  cases more with
  | nil =>
      rw [renderMembers] at first
      obtain rfl := Option.some.inj first
      decide
  | cons next more =>
      rw [renderMembers] at first
      obtain rfl := Option.some.inj first
      decide

/-- A value that begins with neither a bracket, a brace, a quote nor a letter is a number. -/
theorem value_number {fuel : Nat} {literal rest : List UInt8} (valid : validNumber literal = true)
    (bytes : literal.all isNumberByte = true) (ends : Ends rest) :
    value (fuel + 1) (literal ++ rest) = some (.number literal, rest) := by
  obtain ⟨byte, tail, rfl, head⟩ := head_of_validNumber valid
  have read := number_append valid bytes ends
  rw [List.cons_append] at read ⊢
  have unlike : ∀ other : UInt8, 57 < other.toNat → (other == byte) = false :=
    fun other high => beq_eq_false_iff_ne.mpr (ne_of_head head (by omega) (Or.inr high)).symm
  rw [value, skip_cons (visible_of_head head)]
  dsimp only
  rw [if_neg (ne_of_head head (by decide) (by decide)),
    if_neg (ne_of_head head (by decide) (by decide)),
    if_neg (ne_of_head head (by decide) (by decide))]
  simp only [List.isPrefixOf, unlike 110 (by decide), unlike 116 (by decide),
    unlike 102 (by decide), Bool.false_and, Bool.false_eq_true, if_false, read, Option.map_some]

/-- A value does not begin with what ends an array. -/
theorem expect_render {tree : JsonTree} (spelled : Spelled tree) (rest : List UInt8) :
    expect 93 (render tree ++ rest) = none := by
  cases tree with
  | null => rfl
  | boolean truth =>
      cases truth with
      | true => rfl
      | false => rfl
  | number literal =>
      obtain ⟨byte, tail, rfl, head⟩ := head_of_validNumber spelled.1
      rw [render, List.cons_append]
      exact expect_other (visible_of_head head) (ne_of_head head (by decide) (by decide))
  | string text => rfl
  | array elements =>
      cases elements with
      | nil => rfl
      | cons => rfl
  | object members =>
      cases members with
      | nil => rfl
      | cons => rfl

mutual

/-- A value is read as it is spelled. -/
theorem value_render : ∀ (tree : JsonTree) (fuel : Nat) (rest : List UInt8), Spelled tree →
    Ends rest → (render tree).length ≤ fuel → value fuel (render tree ++ rest) = some (tree, rest)
  | .null, fuel, rest, _, _, enough => by
      obtain ⟨fuel, rfl⟩ := Nat.exists_eq_add_of_le' enough
      rfl
  | .boolean true, fuel, rest, _, _, enough => by
      obtain ⟨fuel, rfl⟩ := Nat.exists_eq_add_of_le' enough
      rfl
  | .boolean false, fuel, rest, _, _, enough => by
      obtain ⟨fuel, rfl⟩ := Nat.exists_eq_add_of_le' enough
      rfl
  | .number literal, fuel, rest, spelled, ends, enough => by
      obtain ⟨byte, tail, rfl, _⟩ := head_of_validNumber spelled.1
      obtain ⟨fuel, rfl⟩ := Nat.exists_eq_succ_of_ne_zero (Nat.ne_of_gt (Nat.zero_lt_of_lt enough))
      exact value_number spelled.1 spelled.2 ends
  | .string text, fuel, rest, _, _, enough => by
      obtain ⟨fuel, rfl⟩ := Nat.exists_eq_succ_of_ne_zero (Nat.ne_of_gt (Nat.zero_lt_of_lt enough))
      have read := @string_render text rest
      rw [string, renderString, List.cons_append, expect_self (by decide), Option.bind_some] at read
      rw [render, renderString, List.cons_append, value, skip_cons (by decide)]
      dsimp only
      rw [if_neg (by decide), if_neg (by decide), if_pos rfl, read, Option.map_some]
  | .array [], fuel, rest, _, _, enough => by
      obtain ⟨fuel, rfl⟩ := Nat.exists_eq_add_of_le' enough
      rfl
  | .array (first :: more), fuel, rest, spelled, _, enough => by
      obtain ⟨fuel, rfl⟩ := Nat.exists_eq_succ_of_ne_zero (Nat.ne_of_gt (Nat.zero_lt_of_lt enough))
      rw [render, List.length_cons, List.length_append] at enough
      have head := value_render first fuel (renderElements more ++ rest) spelled.1
        (ends_more more rest) (by omega)
      have tail := moreElements_render more fuel rest spelled.2 (by omega)
      rw [render, List.cons_append, List.append_assoc, value, skip_cons (by decide)]
      dsimp only
      rw [if_neg (by decide), if_pos rfl, expect_render spelled.1]
      dsimp only
      rw [head, Option.bind_some]
      dsimp only
      rw [tail, Option.map_some]
  | .object [], fuel, rest, _, _, enough => by
      obtain ⟨fuel, rfl⟩ := Nat.exists_eq_add_of_le' enough
      rfl
  | .object ((name, first) :: more), fuel, rest, spelled, _, enough => by
      obtain ⟨fuel, rfl⟩ := Nat.exists_eq_succ_of_ne_zero (Nat.ne_of_gt (Nat.zero_lt_of_lt enough))
      rw [render, List.length_cons, List.length_append, List.length_cons, List.length_append]
        at enough
      have head := value_render first fuel (renderMembers more ++ rest) spelled.1
        (ends_moreMembers more rest) (by omega)
      have tail := moreMembers_render more fuel rest spelled.2 (by omega)
      rw [render, List.cons_append, List.append_assoc, List.cons_append, List.append_assoc, value,
        skip_cons (by decide)]
      dsimp only
      rw [if_pos rfl, renderString, List.cons_append, expect_other (by decide) (by decide)]
      dsimp only
      rw [← List.cons_append, ← renderString, string_render, Option.bind_some]
      dsimp only
      rw [expect_self (by decide), Option.bind_some, head, Option.bind_some]
      dsimp only
      rw [tail, Option.map_some]

/-- The elements after the first are read as they are spelled. -/
theorem moreElements_render : ∀ (elements : List JsonTree) (fuel : Nat) (rest : List UInt8),
    SpelledElements elements → (renderElements elements).length ≤ fuel →
      moreElements fuel (renderElements elements ++ rest) = some (elements, rest)
  | [], fuel, rest, _, enough => by
      obtain ⟨fuel, rfl⟩ := Nat.exists_eq_add_of_le' enough
      rfl
  | next :: more, fuel, rest, spelled, enough => by
      obtain ⟨fuel, rfl⟩ := Nat.exists_eq_succ_of_ne_zero (Nat.ne_of_gt (Nat.zero_lt_of_lt enough))
      rw [renderElements, List.length_cons, List.length_append] at enough
      have head := value_render next fuel (renderElements more ++ rest) spelled.1
        (ends_more more rest) (by omega)
      have tail := moreElements_render more fuel rest spelled.2 (by omega)
      rw [renderElements, List.cons_append, List.append_assoc, moreElements,
        expect_other (by decide) (by decide)]
      dsimp only
      rw [expect_self (by decide), Option.bind_some, head, Option.bind_some]
      dsimp only
      rw [tail, Option.map_some]

/-- The members after the first are read as they are spelled. -/
theorem moreMembers_render : ∀ (members : List (List UInt8 × JsonTree)) (fuel : Nat)
    (rest : List UInt8), SpelledMembers members → (renderMembers members).length ≤ fuel →
      moreMembers fuel (renderMembers members ++ rest) = some (members, rest)
  | [], fuel, rest, _, enough => by
      obtain ⟨fuel, rfl⟩ := Nat.exists_eq_add_of_le' enough
      rfl
  | (name, next) :: more, fuel, rest, spelled, enough => by
      obtain ⟨fuel, rfl⟩ := Nat.exists_eq_succ_of_ne_zero (Nat.ne_of_gt (Nat.zero_lt_of_lt enough))
      rw [renderMembers, List.length_cons, List.length_append, List.length_cons,
        List.length_append] at enough
      have head := value_render next fuel (renderMembers more ++ rest) spelled.1
        (ends_moreMembers more rest) (by omega)
      have tail := moreMembers_render more fuel rest spelled.2 (by omega)
      rw [renderMembers, List.cons_append, List.append_assoc, List.cons_append, List.append_assoc,
        moreMembers, expect_other (by decide) (by decide)]
      dsimp only
      rw [expect_self (by decide), Option.bind_some, string_render, Option.bind_some]
      dsimp only
      rw [expect_self (by decide), Option.bind_some, head, Option.bind_some]
      dsimp only
      rw [tail, Option.map_some]

end

/-- **Parsing undoes rendering.** -/
theorem parse_render {tree : JsonTree} (spelled : Spelled tree) :
    parse (render tree) = some tree := by
  have ends : Ends [] := fun _ first => by contradiction
  have read := value_render tree (render tree).length [] spelled ends (Nat.le_refl _)
  rw [List.append_nil] at read
  rw [parse, read, Option.bind_some]
  exact if_pos rfl

/-- Different trees have different texts. -/
theorem render_inj {first second : JsonTree} (one : Spelled first) (two : Spelled second)
    (same : render first = render second) : first = second :=
  Option.some.inj (by rw [← parse_render one, ← parse_render two, same])

end Trees

end JsonText

end Foundation
