import FlowSteer.Json.Basic

/-!
# JSON tokens

A text is cut into punctuation, quoted strings and words. A word is a run of characters up to the
next blank, quote or punctuation; it must be `null`, `true`, `false` or a number.
-/

namespace FlowSteer

namespace Json

/-- A token of a JSON text. -/
inductive Token where
  | openObject
  | closeObject
  | openArray
  | closeArray
  | comma
  | colon
  /-- A string by the characters between its quotes. -/
  | text (body : List Char)
  /-- A number, a truth value or null. -/
  | scalar (value : Json)
deriving Inhabited

/-! ## Characters -/

/-- The four characters that may stand between tokens. -/
def isBlank (c : Char) : Bool := c == ' ' || c == '\t' || c == '\n' || c == '\r'

/-- The token of a punctuation character. -/
def punctuation? : Char → Option Token
  | '\x7b' => some .openObject
  | '\x7d' => some .closeObject
  | '[' => some .openArray
  | ']' => some .closeArray
  | ',' => some .comma
  | ':' => some .colon
  | _ => none

/-- Does a character belong to a word. -/
def isWordChar (c : Char) : Bool := !isBlank c && c != '"' && (punctuation? c).isNone

/-! ## Numbers -/

/-- A non-empty run of digits and what follows it. -/
def digits? (text : List Char) : Option (List Char) :=
  if (text.takeWhile Char.isDigit).isEmpty then none else some (text.dropWhile Char.isDigit)

/-- What follows the whole part of a number: a zero, or digits of which the first is not zero. -/
def afterWhole? : List Char → Option (List Char)
  | '0' :: rest => some rest
  | text => digits? text

/-- What follows a fraction, which may be absent. -/
def afterFraction? : List Char → Option (List Char)
  | '.' :: rest => digits? rest
  | text => some text

/-- What follows the sign of an exponent, which may be absent. -/
def afterSign : List Char → List Char
  | '+' :: rest => rest
  | '-' :: rest => rest
  | text => text

/-- What follows an exponent, which may be absent. -/
def afterExponent? : List Char → Option (List Char)
  | 'e' :: rest => digits? (afterSign rest)
  | 'E' :: rest => digits? (afterSign rest)
  | text => some text

/-- Is a text a number: sign, whole part, fraction, exponent, and nothing else. -/
def isNumber (text : List Char) : Bool :=
  let unsigned := if text.head? = some '-' then text.drop 1 else text
  ((afterWhole? unsigned).bind afterFraction?).bind afterExponent? == some []

/-- The value of a word. -/
def ofWord? (word : List Char) : Option Json :=
  if word = ['n', 'u', 'l', 'l'] then some null
  else if word = ['t', 'r', 'u', 'e'] then some (bool true)
  else if word = ['f', 'a', 'l', 's', 'e'] then some (bool false)
  else if isNumber word then some (number word)
  else none

/-! ## Strings -/

/-- Is a character a hexadecimal digit. -/
def isHexDigit (c : Char) : Bool :=
  c.isDigit || ('a' ≤ c && c ≤ 'f') || ('A' ≤ c && c ≤ 'F')

/-- Characters that may follow a backslash, beside `u`. -/
def isSimpleEscape (c : Char) : Bool := ['"', '\\', '/', 'b', 'f', 'n', 'r', 't'].contains c

/-- The characters up to the closing quote, and what follows it. Control characters must be
escaped, and an escape must be one that exists. -/
def quoted? : List Char → Option (List Char × List Char)
  | [] => none
  | '"' :: rest => some ([], rest)
  | '\\' :: 'u' :: a :: b :: c :: d :: rest =>
      if [a, b, c, d].all isHexDigit then
        (quoted? rest).map fun read => ('\\' :: 'u' :: a :: b :: c :: d :: read.1, read.2)
      else none
  | '\\' :: c :: rest =>
      if isSimpleEscape c then (quoted? rest).map fun read => ('\\' :: c :: read.1, read.2)
      else none
  | c :: rest =>
      if c = '\\' ∨ c.toNat < 0x20 then none
      else (quoted? rest).map fun read => (c :: read.1, read.2)

theorem length_of_quoted? {text body rest : List Char} (read : quoted? text = some (body, rest)) :
    rest.length < text.length := by
  fun_induction quoted? text generalizing body with
  | case1 => simp at read
  | case2 => simp_all
  | case3 a b c d tail valid ih =>
      obtain ⟨⟨inner, left⟩, found, equal⟩ := Option.map_eq_some_iff.1 read
      simp only [Prod.mk.injEq] at equal
      obtain ⟨-, rfl⟩ := equal
      have shorter := ih found
      simp only [List.length_cons]
      omega
  | case4 => simp at read
  | case5 c tail _ valid ih =>
      obtain ⟨⟨inner, left⟩, found, equal⟩ := Option.map_eq_some_iff.1 read
      simp only [Prod.mk.injEq] at equal
      obtain ⟨-, rfl⟩ := equal
      have shorter := ih found
      simp only [List.length_cons]
      omega
  | case6 => simp at read
  | case7 => simp at read
  | case8 c tail _ _ _ plain ih =>
      obtain ⟨⟨inner, left⟩, found, equal⟩ := Option.map_eq_some_iff.1 read
      simp only [Prod.mk.injEq] at equal
      obtain ⟨-, rfl⟩ := equal
      have shorter := ih found
      simp only [List.length_cons]
      omega

/-! ## The whole text -/

theorem length_dropWhile_le (keep : Char → Bool) (text : List Char) :
    (text.dropWhile keep).length ≤ text.length :=
  (List.dropWhile_sublist keep).length_le

/-- Cuts a text into tokens. -/
def tokens? (text : List Char) : Option (List Token) :=
  match text with
  | [] => some []
  | c :: rest =>
      if isBlank c then tokens? rest
      else
        match punctuation? c with
        | some token => (tokens? rest).map (token :: ·)
        | none =>
            if c = '"' then
              match _read : quoted? rest with
              | none => none
              | some (body, left) => (tokens? left).map (.text body :: ·)
            else
              match ofWord? (c :: rest.takeWhile isWordChar) with
              | none => none
              | some value =>
                  (tokens? (rest.dropWhile isWordChar)).map (.scalar value :: ·)
termination_by text.length
decreasing_by
  · simp
  · simp
  · have := length_of_quoted? _read
    simp only [List.length_cons]
    omega
  · have := length_dropWhile_le isWordChar rest
    simp only [List.length_cons]
    omega

end Json

end FlowSteer
