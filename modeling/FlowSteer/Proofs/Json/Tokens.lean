import FlowSteer.Json.Reader
import Mathlib.Data.List.TakeWhile

/-!
# Texts of a value

A value has one list of tokens, and a text spells it when it consists of these tokens, with blanks
anywhere between them.

1. `ofTokens?_tokens`: the reader makes the value out of its tokens again.
2. `Spells`: what a text of some tokens looks like; `tokens?_of_spells`: it is cut into them, and
   `spells_of_tokens?`: it spells no others.
3. `parse?_of_spells`: the value that is read is the one that the text spells, whatever the blanks.
-/

namespace FlowSteer

namespace Json

/-! ## The tokens of a value -/

mutual

/-- The tokens of a value. -/
def tokens : Json → List Token
  | null => [.scalar null]
  | bool value => [.scalar (bool value)]
  | number text => [.scalar (number text)]
  | string body => [.text body]
  | array [] => [.openArray, .closeArray]
  | array (item :: items) => .openArray :: (item.tokens ++ (itemTokens items ++ [.closeArray]))
  | object [] => [.openObject, .closeObject]
  | object (member :: members) =>
      .openObject :: .text member.1 :: .colon ::
        (member.2.tokens ++ (memberTokens members ++ [.closeObject]))

/-- The tokens of further items of an array. -/
def itemTokens : List Json → List Token
  | [] => []
  | item :: items => .comma :: (item.tokens ++ itemTokens items)

/-- The tokens of further members of an object. -/
def memberTokens : List (List Char × Json) → List Token
  | [] => []
  | (name, value) :: members =>
      .comma :: .text name :: .colon :: (value.tokens ++ memberTokens members)

end

namespace Reading

theorem run_cons {reading next : Reading} {token : Token} (rest : List Token)
    (taken : reading.step token = some next) : reading.run (token :: rest) = next.run rest := by
  show (reading.step token).bind _ = _
  rw [taken, Option.bind_some]

/-- A value that is the first item of an array is read as a value anywhere. -/
theorem run_firstItem (value : Json) (frames : List Frame) (rest : List Token) :
    (firstItem frames).run (value.tokens ++ rest) =
      (anyValue (.array [] :: frames)).run (value.tokens ++ rest) := by
  have same : ∀ token ∈ value.tokens.head?,
      (firstItem frames).step token = (anyValue (.array [] :: frames)).step token := by
    intro token first
    match value with
    | null | bool _ | number _ | string _ | array [] | array (_ :: _) | object [] |
      object (_ :: _) =>
        cases first
        rfl
  cases spelled : value.tokens with
  | nil => match value with
    | null | bool _ | number _ | string _ | array [] | array (_ :: _) | object [] |
      object (_ :: _) => cases spelled
  | cons token tail =>
      rw [spelled] at same
      show ((firstItem frames).step token).bind _ = ((anyValue _).step token).bind _
      rw [same token rfl]

mutual

/-- The reader takes the tokens of a value as that value. -/
theorem run_tokens (value : Json) (frames : List Frame) (rest : List Token) :
    (anyValue frames).run (value.tokens ++ rest) = (deliver value frames).run rest := by
  match value with
  | null | bool _ | number _ | string _ | array [] | object [] => rfl
  | array (item :: items) =>
      have first := run_tokens item (.array [] :: frames)
        (itemTokens items ++ .closeArray :: rest)
      have further := run_itemTokens items [] item frames rest
      have opened : (anyValue frames).step .openArray = some (firstItem frames) := rfl
      simp only [tokens, List.cons_append, List.append_assoc, List.nil_append]
      rw [run_cons _ opened, run_firstItem, first]
      exact further
  | object ((name, value) :: members) =>
      have first := run_tokens value (.object [] name :: frames)
        (memberTokens members ++ .closeObject :: rest)
      have further := run_memberTokens members [] name value frames rest
      simp only [tokens, List.cons_append, List.append_assoc, List.nil_append]
      exact first.trans further

theorem run_itemTokens (items before : List Json) (last : Json) (frames : List Frame)
    (rest : List Token) :
    (separator (.array before) last frames).run (itemTokens items ++ .closeArray :: rest) =
      (deliver (.array (before.reverse ++ last :: items)) frames).run rest := by
  match items with
  | [] =>
      have closed : (separator (.array before) last frames).step .closeArray =
          some (deliver (.array (last :: before).reverse) frames) := rfl
      rw [itemTokens, List.nil_append, run_cons _ closed, List.reverse_cons]
  | item :: items =>
      have next := run_tokens item (.array (last :: before) :: frames)
        (itemTokens items ++ .closeArray :: rest)
      have further := run_itemTokens items (last :: before) item frames rest
      have comma : (separator (.array before) last frames).step .comma =
          some (anyValue (.array (last :: before) :: frames)) := rfl
      rw [itemTokens, List.cons_append, List.append_assoc, run_cons _ comma, next]
      rw [List.reverse_cons, List.append_assoc] at further
      exact further

theorem run_memberTokens (members before : List (List Char × Json)) (name : List Char)
    (last : Json) (frames : List Frame) (rest : List Token) :
    (separator (.object before name) last frames).run
        (memberTokens members ++ .closeObject :: rest) =
      (deliver (.object (before.reverse ++ (name, last) :: members)) frames).run rest := by
  match members with
  | [] =>
      have closed : (separator (.object before name) last frames).step .closeObject =
          some (deliver (.object ((name, last) :: before).reverse) frames) := rfl
      rw [memberTokens, List.nil_append, run_cons _ closed, List.reverse_cons]
  | (following, value) :: members =>
      have next := run_tokens value (.object ((name, last) :: before) following :: frames)
        (memberTokens members ++ .closeObject :: rest)
      have further := run_memberTokens members ((name, last) :: before) following value frames rest
      simp only [memberTokens, List.cons_append, List.append_assoc]
      rw [List.reverse_cons, List.append_assoc] at further
      exact next.trans further

end

end Reading

/-- The reader makes a value out of its tokens again. -/
theorem ofTokens?_tokens (value : Json) : ofTokens? value.tokens = some value := by
  have read := Reading.run_tokens value [] []
  rw [List.append_nil] at read
  unfold ofTokens?
  rw [read]
  rfl

/-! ## Texts -/

/-- Does a text begin with a character of a word. -/
def beginsInWord : List Char → Bool
  | [] => false
  | c :: _ => isWordChar c

/-- The text of some tokens, with blanks anywhere between them. -/
inductive Spells : List Char → List Token → Prop
  | nothing : Spells [] []
  | blank {c : Char} {text : List Char} {tokens : List Token} (skipped : isBlank c = true)
      (rest : Spells text tokens) : Spells (c :: text) tokens
  | punctuation {c : Char} {token : Token} {text : List Char} {tokens : List Token}
      (mark : punctuation? c = some token) (rest : Spells text tokens) :
      Spells (c :: text) (token :: tokens)
  | quoted {body text : List Char} {tokens : List Token}
      (closed : quoted? (body ++ '"' :: text) = some (body, text)) (rest : Spells text tokens) :
      Spells ('"' :: (body ++ '"' :: text)) (.text body :: tokens)
  | word (word : List Char) {text : List Char} {value : Json} {tokens : List Token}
      (spelled : ofWord? word = some value) (whole : ∀ c ∈ word, isWordChar c = true)
      (ended : beginsInWord text = false) (rest : Spells text tokens) :
      Spells (word ++ text) (.scalar value :: tokens)

theorem isBlank_of_punctuation? {c : Char} {token : Token} (mark : punctuation? c = some token) :
    isBlank c = false := by
  unfold punctuation? at mark
  split at mark <;> first | rfl | cases mark

theorem tokens?_quoted {text body left : List Char} (closed : quoted? text = some (body, left)) :
    tokens? ('"' :: text) = (tokens? left).map (.text body :: ·) := by
  have visible : ¬isBlank '"' = true := by decide
  have noMark : punctuation? '"' = none := rfl
  rw [tokens?, if_neg visible, noMark]
  simp only [↓reduceIte]
  split
  · rename_i failed
    rw [closed] at failed
    cases failed
  · rename_i read
    rw [closed] at read
    cases read
    rfl

theorem tokens?_word {c : Char} {text : List Char} {value : Json} (first : isWordChar c = true)
    (spelled : ofWord? (c :: text.takeWhile isWordChar) = some value) :
    tokens? (c :: text) = (tokens? (text.dropWhile isWordChar)).map (.scalar value :: ·) := by
  unfold isWordChar at first
  simp only [Bool.and_eq_true, Bool.not_eq_true', bne_iff_ne, Option.isNone_iff_eq_none] at first
  obtain ⟨⟨visible, noQuote⟩, noMark⟩ := first
  rw [tokens?, if_neg (ne_true_of_eq_false visible), noMark]
  simp only [if_neg noQuote]
  rw [spelled]

/-- No word is empty. -/
theorem ne_nil_of_ofWord? {word : List Char} {value : Json} (spelled : ofWord? word = some value) :
    word ≠ [] := by
  rintro rfl
  cases spelled

theorem takeWhile_isWordChar {word text : List Char} (whole : ∀ c ∈ word, isWordChar c = true)
    (ended : beginsInWord text = false) : (word ++ text).takeWhile isWordChar = word := by
  rw [List.takeWhile_append_of_pos whole]
  cases text with
  | nil => rw [List.takeWhile_nil, List.append_nil]
  | cons c rest =>
      have other : ¬isWordChar c = true := ne_true_of_eq_false ended
      rw [List.takeWhile_cons_of_neg other, List.append_nil]

theorem dropWhile_isWordChar {word text : List Char} (whole : ∀ c ∈ word, isWordChar c = true)
    (ended : beginsInWord text = false) : (word ++ text).dropWhile isWordChar = text := by
  rw [List.dropWhile_append_of_pos whole]
  cases text with
  | nil => rfl
  | cons c rest =>
      have other : ¬isWordChar c = true := ne_true_of_eq_false ended
      rw [List.dropWhile_cons_of_neg other]

/-- A text is cut into the tokens that it spells. -/
theorem tokens?_of_spells {text : List Char} {tokens : List Token} (spells : Spells text tokens) :
    tokens? text = some tokens := by
  induction spells with
  | nothing => rw [tokens?]
  | blank skipped rest ih => rw [tokens?, if_pos skipped, ih]
  | punctuation mark rest ih =>
      rw [tokens?, if_neg (ne_true_of_eq_false (isBlank_of_punctuation? mark)), mark]
      simp only []
      rw [ih, Option.map_some]
  | quoted closed rest ih => rw [tokens?_quoted closed, ih, Option.map_some]
  | word word spelled whole ended rest ih =>
      obtain ⟨c, tail, rfl⟩ := List.exists_cons_of_ne_nil (ne_nil_of_ofWord? spelled)
      obtain ⟨first, others⟩ := List.forall_mem_cons.1 whole
      have read := takeWhile_isWordChar others ended
      rw [List.cons_append, tokens?_word first (by rw [read, spelled]),
        dropWhile_isWordChar others ended, ih, Option.map_some]

/-- A quoted string ends with a quote, and its characters are closed by it. -/
theorem eq_of_quoted? {text body left : List Char} (read : quoted? text = some (body, left)) :
    text = body ++ '"' :: left := by
  fun_induction quoted? text generalizing body with
  | case1 => cases read
  | case2 tail =>
      cases read
      rfl
  | case3 a b c d tail valid ih =>
      obtain ⟨⟨inner, rest⟩, found, same⟩ := Option.map_eq_some_iff.1 read
      cases same
      rw [ih found]
      rfl
  | case4 => cases read
  | case5 c tail _ valid ih =>
      obtain ⟨⟨inner, rest⟩, found, same⟩ := Option.map_eq_some_iff.1 read
      cases same
      rw [ih found]
      rfl
  | case6 => cases read
  | case7 => cases read
  | case8 c tail _ _ _ plain ih =>
      obtain ⟨⟨inner, rest⟩, found, same⟩ := Option.map_eq_some_iff.1 read
      cases same
      rw [ih found]
      rfl

/-- What is left behind a word does not go on with it. -/
theorem beginsInWord_dropWhile (text : List Char) :
    beginsInWord (text.dropWhile isWordChar) = false := by
  induction text with
  | nil => rfl
  | cons c rest ih =>
      rw [List.dropWhile_cons]
      split
      · exact ih
      · rename_i other
        exact eq_false_of_ne_true other

/-- A text spells the tokens that it is cut into. -/
theorem spells_of_tokens? {text : List Char} {tokens : List Token}
    (cut : tokens? text = some tokens) : Spells text tokens := by
  fun_induction tokens? text generalizing tokens with
  | case1 =>
      cases cut
      exact .nothing
  | case2 c rest skipped ih => exact .blank skipped (ih cut)
  | case3 c rest _ token mark ih =>
      obtain ⟨others, read, rfl⟩ := Option.map_eq_some_iff.1 cut
      exact .punctuation mark (ih read)
  | case4 => cases cut
  | case5 rest body left read _ _ ih =>
      obtain ⟨others, further, rfl⟩ := Option.map_eq_some_iff.1 cut
      have whole := eq_of_quoted? read
      subst whole
      exact .quoted read (ih further)
  | case6 => cases cut
  | case7 c rest visible noMark noQuote value spelled ih =>
      obtain ⟨others, further, rfl⟩ := Option.map_eq_some_iff.1 cut
      have first : isWordChar c = true := by simp [isWordChar, visible, noMark, noQuote]
      have word : ∀ other ∈ c :: rest.takeWhile isWordChar, isWordChar other = true :=
        List.forall_mem_cons.2 ⟨first, fun other there => List.mem_takeWhile_imp there⟩
      have spells := Spells.word _ spelled word (beginsInWord_dropWhile rest) (ih further)
      rw [List.cons_append, List.takeWhile_append_dropWhile] at spells
      exact spells

/-- The value that is read is the one that the text spells. -/
theorem parse?_of_spells {text : List Char} {value : Json} (spells : Spells text value.tokens) :
    parse? text = some value := by
  unfold parse?
  rw [tokens?_of_spells spells, Option.bind_some, ofTokens?_tokens]

end Json

end FlowSteer
