import FlowSteer.Json.Printer
import FlowSteer.Proofs.Json.Tokens

/-!
# Written values

A written value spells the value: line breaks and indentation are blanks, and words and strings end
where the next character says so.

1. `Writable`: numbers are words, and strings keep to their quotes; numbers and names that the
   library writes are so: `writable_ofNat`, `writable_ofMembers`.
2. `spells_pretty`: a written value spells its tokens at every depth.
3. `parse?_render`: a value that is written is the value that is read.
-/

namespace FlowSteer

namespace Json

variable {text : List Char} {tokens : List Token}

/-! ## Blanks -/

theorem spells_lineBreak (depth : Nat) (rest : Spells text tokens) :
    Spells (lineBreak depth ++ text) tokens := by
  have indented : ∀ count, Spells (List.replicate count ' ' ++ text) tokens := by
    intro count
    induction count with
    | zero => exact rest
    | succ count ih => exact .blank rfl ih
  exact .blank rfl (indented _)

/-! ## Writable values -/

/-- A string ends at the quote behind it, whatever follows. -/
def Closes (body : List Char) : Prop :=
  ∀ text, quoted? (body ++ '"' :: text) = some (body, text)

mutual

/-- Numbers are words, and strings and names end where they are closed. -/
def Writable : Json → Prop
  | null => True
  | bool _ => True
  | number text => ofWord? text = some (number text) ∧ ∀ c ∈ text, isWordChar c = true
  | string body => Closes body
  | array items => WritableItems items
  | object members => WritableMembers members

/-- All items of an array are writable. -/
def WritableItems : List Json → Prop
  | [] => True
  | item :: items => item.Writable ∧ WritableItems items

/-- All members of an object are writable. -/
def WritableMembers : List (List Char × Json) → Prop
  | [] => True
  | (name, value) :: members => Closes name ∧ value.Writable ∧ WritableMembers members

end

theorem spells_quote {body : List Char} (closes : Closes body) (rest : Spells text tokens) :
    Spells (quote body ++ text) (.text body :: tokens) := by
  show Spells ('"' :: (body ++ ['"'] ++ text)) _
  rw [List.append_assoc]
  exact .quoted (closes text) rest

/-- A name and the colon behind it. -/
theorem spells_name {name : List Char} (closes : Closes name) (rest : Spells text tokens) :
    Spells (quote name ++ ([':', ' '] ++ text)) (.text name :: .colon :: tokens) :=
  spells_quote closes (.punctuation rfl (.blank rfl rest))

theorem beginsInWord_prettyItems (depth : Nat) (items : List Json)
    (ended : beginsInWord text = false) :
    beginsInWord (prettyItems depth items ++ text) = false := by
  cases items with
  | nil => exact ended
  | cons item items => rfl

theorem beginsInWord_prettyMembers (depth : Nat) (members : List (List Char × Json))
    (ended : beginsInWord text = false) :
    beginsInWord (prettyMembers depth members ++ text) = false := by
  cases members with
  | nil => exact ended
  | cons member members => rfl

mutual

/-- A written value spells its tokens. What follows must not go on with its last word. -/
theorem spells_pretty (depth : Nat) (value : Json) (writable : value.Writable)
    {text : List Char} {tokens : List Token} (ended : beginsInWord text = false)
    (rest : Spells text tokens) :
    Spells (pretty depth value ++ text) (value.tokens ++ tokens) := by
  match value, writable with
  | null, _ => exact .word ['n', 'u', 'l', 'l'] rfl (List.all_eq_true.1 rfl) ended rest
  | bool true, _ => exact .word ['t', 'r', 'u', 'e'] rfl (List.all_eq_true.1 rfl) ended rest
  | bool false, _ => exact .word ['f', 'a', 'l', 's', 'e'] rfl (List.all_eq_true.1 rfl) ended rest
  | number _, ⟨spelled, whole⟩ => exact .word _ spelled whole ended rest
  | string _, closes => exact spells_quote closes rest
  | array [], _ => exact .punctuation rfl (.punctuation rfl rest)
  | array (item :: items), writable =>
      obtain ⟨first, others⟩ := writable
      have closed := spells_lineBreak depth (.punctuation (c := ']') rfl rest)
      have further := spells_prettyItems (depth + 1) items others rfl closed
      have begun := spells_pretty (depth + 1) item first
        (beginsInWord_prettyItems _ items rfl) further
      have opened := spells_lineBreak (depth + 1) begun
      simp only [pretty, Json.tokens, List.cons_append, List.append_assoc, List.nil_append]
      exact .punctuation rfl opened
  | object [], _ => exact .punctuation rfl (.punctuation rfl rest)
  | object ((name, value) :: members), writable =>
      obtain ⟨closes, first, others⟩ := writable
      have closed := spells_lineBreak depth (.punctuation (c := '\x7d') rfl rest)
      have further := spells_prettyMembers (depth + 1) members others rfl closed
      have begun := spells_pretty (depth + 1) value first
        (beginsInWord_prettyMembers _ members rfl) further
      have opened := spells_lineBreak (depth + 1) (spells_name closes begun)
      simp only [pretty, Json.tokens, List.cons_append, List.append_assoc, List.nil_append]
      exact .punctuation rfl opened

theorem spells_prettyItems (depth : Nat) (items : List Json) (writable : WritableItems items)
    {text : List Char} {tokens : List Token} (ended : beginsInWord text = false)
    (rest : Spells text tokens) :
    Spells (prettyItems depth items ++ text) (itemTokens items ++ tokens) := by
  match items, writable with
  | [], _ => exact rest
  | item :: items, ⟨first, others⟩ =>
      have further := spells_prettyItems depth items others ended rest
      have begun := spells_pretty depth item first
        (beginsInWord_prettyItems _ items ended) further
      simp only [prettyItems, itemTokens, List.cons_append, List.append_assoc]
      exact .punctuation rfl (spells_lineBreak depth begun)

theorem spells_prettyMembers (depth : Nat) (members : List (List Char × Json))
    (writable : WritableMembers members) {text : List Char} {tokens : List Token}
    (ended : beginsInWord text = false) (rest : Spells text tokens) :
    Spells (prettyMembers depth members ++ text) (memberTokens members ++ tokens) := by
  match members, writable with
  | [], _ => exact rest
  | (name, value) :: members, ⟨closes, first, others⟩ =>
      have further := spells_prettyMembers depth members others ended rest
      have begun := spells_pretty depth value first
        (beginsInWord_prettyMembers _ members ended) further
      have named := spells_lineBreak depth (spells_name closes begun)
      simp only [prettyMembers, memberTokens, List.cons_append, List.append_assoc]
      exact .punctuation rfl named

end

/-- A value that is written is the value that is read. -/
theorem parse?_render {value : Json} (writable : value.Writable) :
    parse? value.render = some value := by
  have spells := spells_pretty 0 value writable rfl .nothing
  rw [List.append_nil, List.append_nil] at spells
  exact parse?_of_spells spells

/-! ## Numbers and names -/

/-- The digits of a number do not begin with a zero, but for zero itself. -/
theorem head_toDigits_ne_zero {n : Nat} (positive : 0 < n) {c : Char} {rest : List Char}
    (digits : Nat.toDigits 10 n = c :: rest) : c ≠ '0' := by
  induction n using Nat.strongRecOn generalizing rest with
  | ind n ih =>
      by_cases small : n < 10
      · have single : ∀ digit < 10, 0 < digit → Nat.digitChar digit ≠ '0' := by decide
        rw [Nat.toDigits_of_lt_base small] at digits
        cases digits
        exact single n small positive
      · -- The digits of `n / 10` come first.
        rw [Nat.toDigits_of_base_le (by decide) (Nat.le_of_not_lt small)] at digits
        obtain ⟨first, others, leading⟩ := List.exists_cons_of_ne_nil
          (Nat.toDigits_ne_nil (n := n / 10) (b := 10))
        rw [leading] at digits
        cases digits
        exact ih (n / 10) (by omega) (by omega) leading

theorem isNumber_toDigits (n : Nat) : isNumber (Nat.toDigits 10 n) = true := by
  have digits : ∀ c ∈ Nat.toDigits 10 n, c.isDigit = true :=
    fun c member => Nat.isDigit_of_mem_toDigits (by decide) (by decide) member
  rcases Nat.eq_zero_or_pos n with rfl | positive
  · decide
  · obtain ⟨c, rest, written⟩ := List.exists_cons_of_ne_nil (Nat.toDigits_ne_nil (n := n) (b := 10))
    have leading := head_toDigits_ne_zero positive written
    rw [written] at digits ⊢
    have unsigned : c ≠ '-' := by
      rintro rfl
      exact absurd (digits _ List.mem_cons_self) (by decide)
    have whole : afterWhole? (c :: rest) = some [] := by
      unfold afterWhole?
      split
      · rename_i zero
        cases zero
        exact absurd rfl leading
      · unfold digits?
        rw [List.takeWhile_eq_self_iff.2 digits, List.dropWhile_eq_nil_iff.2 digits]
        rfl
    have sign : (c :: rest).head? ≠ some '-' := fun same => unsigned (Option.some.inj same)
    unfold isNumber
    simp only [if_neg sign, whole, Option.bind_some]
    rfl

theorem isWordChar_of_isDigit {c : Char} (digit : c.isDigit = true) : isWordChar c = true := by
  have other : ∀ mark : Char, mark.isDigit = false → c ≠ mark := by
    rintro mark noDigit rfl
    rw [digit] at noDigit
    cases noDigit
  have noMark : punctuation? c = none := by
    unfold punctuation?
    split <;> first | rfl | exact absurd digit (by decide)
  simp [isWordChar, isBlank, noMark, other ' ' rfl, other '\t' rfl, other '\n' rfl,
    other '\r' rfl, other '"' rfl]

theorem writable_ofNat (n : Nat) : (ofNat n).Writable := by
  have digits : ∀ c ∈ Nat.toDigits 10 n, c.isDigit = true :=
    fun c member => Nat.isDigit_of_mem_toDigits (by decide) (by decide) member
  -- A name begins with a letter.
  have named : ∀ c rest, c.isDigit = false → Nat.toDigits 10 n ≠ c :: rest := by
    intro c rest letter same
    have digit := digits c (same ▸ List.mem_cons_self)
    rw [letter] at digit
    cases digit
  refine ⟨?_, fun c member => isWordChar_of_isDigit (digits c member)⟩
  unfold ofWord?
  rw [if_neg (named _ _ rfl), if_neg (named _ _ rfl), if_neg (named _ _ rfl),
    if_pos (isNumber_toDigits n)]

/-- A character that stands for itself in a string. -/
def isPlain (c : Char) : Bool := c != '"' && c != '\\' && 0x20 ≤ c.toNat

theorem closes_of_plain {body : List Char} (plain : ∀ c ∈ body, isPlain c = true) :
    Closes body := by
  intro text
  induction body with
  | nil => rfl
  | cons c rest ih =>
      obtain ⟨first, others⟩ := List.forall_mem_cons.1 plain
      unfold isPlain at first
      simp only [Bool.and_eq_true, bne_iff_ne, decide_eq_true_eq] at first
      obtain ⟨⟨noQuote, noEscape⟩, noControl⟩ := first
      rw [List.cons_append, quoted?, if_neg (not_or.2 ⟨noEscape, Nat.not_lt.2 noControl⟩),
        ih others]
      · rfl
      all_goals
        intros
        contradiction

/-- Names that are told apart and need no escape. -/
def WellNamed (names : List String) : Prop :=
  names.Nodup ∧ ∀ name ∈ names, name.toList.all isPlain = true

instance (names : List String) : Decidable (WellNamed names) :=
  inferInstanceAs (Decidable (_ ∧ _))

/-- A record is writable when its values are and its names need no escape. -/
theorem writable_ofMembers {members : List (String × Json)}
    (named : WellNamed (members.map Prod.fst))
    (values : ∀ member ∈ members, member.2.Writable) : (ofMembers members).Writable := by
  have plain := named.2
  clear named
  show WritableMembers (members.map _)
  induction members with
  | nil => trivial
  | cons member rest ih =>
      obtain ⟨name, names⟩ := List.forall_mem_cons.1 plain
      obtain ⟨value, others⟩ := List.forall_mem_cons.1 values
      exact ⟨closes_of_plain (List.all_eq_true.1 name), value, ih others names⟩

end Json

end FlowSteer
