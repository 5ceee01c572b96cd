import FlowSteer.Proofs.Json.Records
import FlowSteer.RateLimits

/-!
# Lines of the agent

A line of the agent is one object between blanks. Whichever way a request is rendered, the line is
read as that request, and a line that breaks a rule for one of its fields is refused.

1. `spells_trim`: what is trimmed off a line is no part of its object.
2. `RateRequest.Renders`: the members of a request, in any order, the rate under either of its
   names, a queue that is absent as null or not at all, and other members that are unknown.
3. `RateRequest.Faulty`: a field is missing, given twice, or given a number that is none of its own.
4. `RateRequest.parse_line`: renderings are read as their requests, and faulty lines are malformed.
-/

namespace FlowSteer

/-! ## Trimmed lines -/

namespace Text

theorem dropWhile_append {skip : Char → Bool} {before core : List Char} {first : Char}
    (skipped : ∀ c ∈ before, skip c = true) (starts : core.head? = some first)
    (kept : skip first = false) : (before ++ core).dropWhile skip = core := by
  obtain ⟨rest, rfl⟩ := List.head?_eq_some_iff.1 starts
  rw [List.dropWhile_append_of_pos skipped, List.dropWhile_cons_of_neg (ne_true_of_eq_false kept)]

/-- Blanks are trimmed off as far as the first and the last character that are none. -/
theorem trim_append {before core after : List Char} {first last : Char}
    (blankBefore : ∀ c ∈ before, isBlank c = true) (blankAfter : ∀ c ∈ after, isBlank c = true)
    (starts : core.head? = some first) (firstVisible : isBlank first = false)
    (ends : core.getLast? = some last) (lastVisible : isBlank last = false) :
    trim (before ++ core ++ after) = core := by
  have starts' : (core ++ after).head? = some first := by
    rw [List.head?_append, starts]
    rfl
  have ends' : core.reverse.head? = some last := by rw [List.head?_reverse, ends]
  have blank : ∀ c ∈ after.reverse, isBlank c = true :=
    fun c there => blankAfter c (List.mem_reverse.1 there)
  unfold trim
  rw [List.append_assoc, dropWhile_append blankBefore starts' firstVisible, List.reverse_append,
    dropWhile_append blank ends' lastVisible, List.reverse_reverse]

end Text

namespace Json

variable {text : List Char} {tokens : List Token}

/-- A string that is closed once is closed whatever follows it. -/
theorem closes_of_quoted? {text body left : List Char} (read : quoted? text = some (body, left)) :
    Closes body := by
  intro behind
  fun_induction quoted? text generalizing body with
  | case1 => cases read
  | case2 tail =>
      cases read
      rfl
  | case3 a b c d tail valid ih =>
      obtain ⟨⟨inner, rest⟩, found, same⟩ := Option.map_eq_some_iff.1 read
      cases same
      simp only [List.cons_append, quoted?, if_pos valid, ih found, Option.map_some]
  | case4 => cases read
  | case5 c tail _ valid ih =>
      obtain ⟨⟨inner, rest⟩, found, same⟩ := Option.map_eq_some_iff.1 read
      cases same
      have other : c ≠ 'u' := by
        rintro rfl
        cases valid
      rw [List.cons_append, List.cons_append, quoted?, if_pos valid, ih found]
      · rfl
      · intros
        contradiction
  | case6 => cases read
  | case7 => cases read
  | case8 c tail noQuote _ _ plain ih =>
      obtain ⟨⟨inner, rest⟩, found, same⟩ := Option.map_eq_some_iff.1 read
      cases same
      have noEscape := (not_or.1 plain).1
      rw [List.cons_append, quoted?, if_neg plain, ih found]
      · rfl
      all_goals
        intros
        contradiction

theorem isBlank_of_spells_nil (spells : Spells text []) : ∀ c ∈ text, isBlank c = true := by
  generalize nothing : ([] : List Token) = tokens at spells
  induction spells with
  | nothing => exact fun _ there => absurd there List.not_mem_nil
  | blank skipped _ ih => exact List.forall_mem_cons.2 ⟨skipped, ih nothing⟩
  | punctuation => cases nothing
  | quoted => cases nothing
  | word => cases nothing

theorem isBlank_of_isBlank {c : Char} (blank : isBlank c = true) : Text.isBlank c = true := by
  simp only [isBlank, Bool.or_eq_true, beq_iff_eq] at blank
  rcases blank with ((rfl | rfl) | rfl) | rfl <;> rfl

theorem not_isBlank_of_punctuation? {c : Char} {token : Token}
    (mark : punctuation? c = some token) : Text.isBlank c = false := by
  unfold punctuation? at mark
  split at mark <;> first | rfl | cases mark

theorem eq_of_closeObject {c : Char} (mark : punctuation? c = some .closeObject) :
    c = '\x7d' := by
  unfold punctuation? at mark
  split at mark <;> first | rfl | cases mark

/-- A text up to its first mark spells the same as without the blanks before it. -/
theorem exists_of_openObject (spells : Spells text (.openObject :: tokens)) :
    ∃ before c rest, text = before ++ c :: rest ∧ (∀ c ∈ before, Text.isBlank c = true) ∧
      Text.isBlank c = false ∧ Spells (c :: rest) (.openObject :: tokens) := by
  generalize whole : Token.openObject :: tokens = all at spells
  induction spells with
  | nothing => cases whole
  | @blank c text _ skipped _ ih =>
      obtain ⟨before, first, rest, rfl, blanks, mark, core⟩ := ih whole
      exact ⟨c :: before, first, rest, rfl,
        List.forall_mem_cons.2 ⟨isBlank_of_isBlank skipped, blanks⟩, mark, core⟩
  | @punctuation c _ text _ mark rest =>
      exact ⟨[], c, text, rfl, fun _ there => absurd there List.not_mem_nil,
        not_isBlank_of_punctuation? mark, .punctuation mark rest⟩
  | quoted => cases whole
  | word => cases whole

/-- A text behind its last mark spells nothing, and the same as it does with that. -/
theorem exists_of_closeObject (spells : Spells text (tokens ++ [.closeObject])) :
    ∃ core after, text = core ++ '\x7d' :: after ∧ (∀ c ∈ after, Text.isBlank c = true) ∧
      Spells (core ++ ['\x7d']) (tokens ++ [.closeObject]) := by
  generalize whole : tokens ++ [Token.closeObject] = all at spells
  induction spells generalizing tokens with
  | nothing => simp at whole
  | @blank c text _ skipped _ ih =>
      obtain ⟨core, after, rfl, blanks, ended⟩ := ih whole
      exact ⟨c :: core, after, rfl, blanks, .blank skipped ended⟩
  | @punctuation c token text _ mark rest ih =>
      cases tokens with
      | nil =>
          cases whole
          cases eq_of_closeObject mark
          have blanks : ∀ c ∈ text, Text.isBlank c = true := fun c there =>
            isBlank_of_isBlank (isBlank_of_spells_nil rest c there)
          exact ⟨[], text, rfl, blanks, .punctuation mark .nothing⟩
      | cons first others =>
          cases whole
          obtain ⟨core, after, rfl, blanks, ended⟩ := ih rfl
          exact ⟨c :: core, after, rfl, blanks, .punctuation mark ended⟩
  | @quoted body text _ closed _ ih =>
      cases tokens with
      | nil => cases whole
      | cons first others =>
          cases whole
          obtain ⟨core, after, rfl, blanks, ended⟩ := ih rfl
          refine ⟨'"' :: (body ++ '"' :: core), after, ?_, blanks, ?_⟩
          · simp
          · have spelled := Spells.quoted (closes_of_quoted? closed _) ended
            simpa using spelled
  | @word word text value _ spelled isWord ended _ ih =>
      cases tokens with
      | nil => cases whole
      | cons first others =>
          cases whole
          obtain ⟨core, after, rfl, blanks, shorter⟩ := ih rfl
          have stops : beginsInWord (core ++ ['\x7d']) = false := by
            cases core with
            | nil => rfl
            | cons => exact ended
          refine ⟨word ++ core, after, (List.append_assoc ..).symm, blanks, ?_⟩
          rw [List.append_assoc]
          exact .word word spelled isWord stops shorter

/-- What is trimmed off a line is no part of its object. -/
theorem spells_trim {before after : List Char} (blankBefore : ∀ c ∈ before, Text.isBlank c = true)
    (blankAfter : ∀ c ∈ after, Text.isBlank c = true)
    (spells : Spells text (.openObject :: (tokens ++ [.closeObject]))) :
    Spells (Text.trim (before ++ text ++ after)) (.openObject :: (tokens ++ [.closeObject])) := by
  obtain ⟨leading, first, rest, rfl, leads, visible, begun⟩ := exists_of_openObject spells
  rw [← List.cons_append] at begun
  obtain ⟨core, trailing, same, trails, ended⟩ := exists_of_closeObject begun
  have starts : (core ++ ['\x7d']).head? = some first := by
    cases core <;> cases same <;> rfl
  have trimmed : Text.trim ((before ++ leading) ++ (core ++ ['\x7d']) ++ (trailing ++ after)) =
      core ++ ['\x7d'] :=
    Text.trim_append (List.forall_mem_append.2 ⟨blankBefore, leads⟩)
      (List.forall_mem_append.2 ⟨trails, blankAfter⟩) starts visible List.getLast?_concat rfl
  rw [same]
  simp only [List.append_assoc, List.cons_append, List.nil_append] at trimmed ended ⊢
  rw [trimmed]
  exact ended

/-- A line is one value between blanks. -/
def IsLine (value : Json) (line : List Char) : Prop :=
  ∃ before text after, line = before ++ text ++ after ∧ (∀ c ∈ before, Text.isBlank c = true) ∧
    (∀ c ∈ after, Text.isBlank c = true) ∧ Spells text value.tokens

theorem exists_tokens_object (members : List (List Char × Json)) :
    ∃ tokens, (object members).tokens = .openObject :: (tokens ++ [.closeObject]) := by
  match members with
  | [] => exact ⟨[], rfl⟩
  | member :: members =>
      refine ⟨.text member.1 :: .colon :: (member.2.tokens ++ memberTokens members), ?_⟩
      simp only [tokens, List.cons_append, List.append_assoc]

/-- The object of a line is read, whatever blanks are around it. -/
theorem parse?_trim {members : List (List Char × Json)} {line : List Char}
    (isLine : IsLine (object members) line) : parse? (Text.trim line) = some (object members) := by
  obtain ⟨before, text, after, rfl, blankBefore, blankAfter, spells⟩ := isLine
  obtain ⟨tokens, same⟩ := exists_tokens_object members
  apply parse?_of_spells
  rw [same] at spells ⊢
  exact spells_trim blankBefore blankAfter spells

end Json

namespace RateRequest

open Json

variable {members : List (List Char × Json)} {request : RateRequest}

/-! ## Renderings -/

/-- The names of the fields of a request. -/
def known : List String := ["flow_id", "rate_kbit", "rate", "queue"]

/-- The bound of the numbers of a field. -/
def bound (name : String) : Nat :=
  if name = "rate_kbit" ∨ name = "rate" then wordSize else wordSize32

/-- The numbers of a request are words of the widths of their fields. -/
structure InRange (request : RateRequest) : Prop where
  flow : request.flow < wordSize32
  rate : request.rate < wordSize
  queue : ∀ queue ∈ request.queue, queue < wordSize32

/-- How a queue may be written: a queue that is absent as null or not at all. -/
inductive WritesQueue : Option QueueId → List (String × Json) → Prop
  | number (queue : QueueId) : WritesQueue (some queue) [("queue", ofNat queue)]
  | null : WritesQueue none [("queue", .null)]
  | leftOut : WritesQueue none []

/-- Members of a request: its fields, the rate under either of its names, in any order and under
names spelled in any way, among others that are no field. -/
def Renders (request : RateRequest) (members : List (List Char × Json)) : Prop :=
  ∃ rateName queue, (rateName = "rate_kbit" ∨ rateName = "rate") ∧
    WritesQueue request.queue queue ∧
    Arranges known
      (("flow_id", ofNat request.flow) :: (rateName, ofNat request.rate) :: queue) members

/-- A rendered request is read as it was. -/
theorem ofJson?_of_renders (inRange : request.InRange) (renders : request.Renders members) :
    ofJson? (.object members) = some request := by
  obtain ⟨rateName, queue, either, writes, arranges⟩ := renders
  obtain ⟨flow, rate, asked⟩ := request
  obtain ⟨fields, taken⟩ := arranges.exists_fields? 3
  have flowRead : fields.required 0 ["flow_id"] (nat? wordSize32) = some flow := by
    rw [← nat?_ofNat inRange.flow]
    refine arranges.required_eq taken (by decide) ?_ _ _
    rcases either with rfl | rfl <;> cases writes <;> rfl
  have rateRead : fields.required 1 ["rate_kbit", "rate"] (nat? wordSize) = some rate := by
    rw [← nat?_ofNat inRange.rate]
    refine arranges.required_eq taken (by decide) ?_ _ _
    rcases either with rfl | rfl <;> cases writes <;> rfl
  have queueRead : fields.withDefault 2 ["queue"] (optional? (nat? wordSize32)) none =
      some asked := by
    cases writes with
    | number queue =>
        refine (arranges.withDefault_of_once taken (by decide) (some (ofNat queue)) ?_ _ _ _).trans
          ?_
        · rcases either with rfl | rfl <;> rfl
        · show ((ofNat queue).nat? wordSize32).map some = some (some queue)
          rw [nat?_ofNat (inRange.queue queue rfl), Option.map_some]
    | null =>
        refine arranges.withDefault_of_once taken (by decide) (some .null) ?_ _ _ _
        rcases either with rfl | rfl <;> rfl
    | leftOut =>
        refine arranges.withDefault_of_once taken (by decide) none ?_ _ _ _
        rcases either with rfl | rfl <;> rfl
  unfold ofJson?
  rw [taken, Option.bind_eq_bind, Option.bind_some, flowRead, rateRead, queueRead]
  rfl

/-! ## Faulty lines -/

/-- A number is negative, has a fraction or an exponent, or does not fit. -/
def Unfit (bound : Nat) (text : List Char) : Prop :=
  text.head? = some '-' ∨ '.' ∈ text ∨ 'e' ∈ text ∨ 'E' ∈ text ∨ bound ≤ decimal text

/-- What is wrong with the members of a line. -/
inductive Faulty (members : List (List Char × Json)) : Prop
  /-- The flow is missing. -/
  | noFlow (missing : ∀ member ∈ members, isCalled ["flow_id"] member = false)
  /-- The rate is missing under both of its names. -/
  | noRate (missing : ∀ member ∈ members, isCalled ["rate_kbit", "rate"] member = false)
  /-- The rate is given under both of its names. -/
  | twoRates {first second : List Char × Json} (firstThere : first ∈ members)
      (secondThere : second ∈ members) (firstCalled : isCalled ["rate_kbit"] first = true)
      (secondCalled : isCalled ["rate"] second = true)
  /-- A known name occurs twice. -/
  | repeated (repeats : Repeats known members)
  /-- A field is given a number that is none of its own. -/
  | unfit {body text : List Char} {name : String} (there : (body, .number text) ∈ members)
      (spelled : unescape? body = some name.toList) (listed : name ∈ known)
      (unfit : Unfit (bound name) text)

theorem nat?_of_unfit {bound : Nat} {text : List Char} (unfit : Unfit bound text) :
    (number text).nat? bound = none := by
  refine if_neg ?_
  intro fits
  simp only [Bool.and_eq_true, decide_eq_true_eq, List.all_eq_true] at fits
  obtain ⟨⟨-, digits⟩, small⟩ := fits
  rcases unfit with sign | fraction | exponent | exponent | large
  · exact absurd (digits _ (List.mem_of_mem_head? sign)) (by decide)
  · exact absurd (digits _ fraction) (by decide)
  · exact absurd (digits _ exponent) (by decide)
  · exact absurd (digits _ exponent) (by decide)
  · exact absurd small (Nat.not_lt.2 large)

theorem valuesFor_eq_nil {names : List String}
    (missing : ∀ member ∈ members, isCalled names member = false) :
    valuesFor names members = [] := by
  have none : members.filter (isCalled names) = [] :=
    List.filter_eq_nil_iff.2 fun member there => ne_true_of_eq_false (missing member there)
  rw [valuesFor, none]
  rfl

theorem length_pos_of_isCalled {names : List String} {member : List Char × Json}
    (there : member ∈ members) (called : isCalled names member = true) :
    0 < (valuesFor names members).length :=
  List.length_pos_of_mem (List.mem_map_of_mem (List.mem_filter.2 ⟨there, called⟩))

/-- A faulty line has a field that cannot be read. -/
theorem lost_of_faulty {fields : Fields} (faulty : Faulty members)
    (taken : (object members).fields? 3 = some fields) :
    fields.required 0 ["flow_id"] (nat? wordSize32) = none ∨
      fields.required 1 ["rate_kbit", "rate"] (nat? wordSize) = none ∨
      fields.withDefault 2 ["queue"] (optional? (nat? wordSize32)) none = none := by
  cases faulty with
  | noFlow missing => exact .inl (required_of_missing (valuesFor_eq_nil missing) taken _ _)
  | noRate missing => exact .inr (.inl (required_of_missing (valuesFor_eq_nil missing) taken _ _))
  | twoRates firstThere secondThere firstCalled secondCalled =>
      have first := length_pos_of_isCalled firstThere firstCalled
      have second := length_pos_of_isCalled secondThere secondCalled
      have twice : 2 ≤ (valuesFor ["rate_kbit", "rate"] members).length := by
        rw [length_valuesFor_pair (by decide)]
        omega
      exact .inr (.inl ((Spoils.of_twice _ twice).required taken _))
  | repeated repeats =>
      obtain ⟨name, listed, twice⟩ := repeats.exists_twice
      have rates : (valuesFor ["rate_kbit", "rate"] members).length = _ + _ :=
        length_valuesFor_pair (by decide) members
      simp only [known, List.mem_cons, List.not_mem_nil, or_false] at listed
      rcases listed with rfl | rfl | rfl | rfl
      · exact .inl ((Spoils.of_twice _ twice).required taken _)
      · exact .inr (.inl ((Spoils.of_twice _ (by omega)).required taken _))
      · exact .inr (.inl ((Spoils.of_twice _ (by omega)).required taken _))
      · exact .inr (.inr ((Spoils.of_twice _ twice).withDefault taken _ _))
  | @unfit body text name there spelled listed unfit =>
      have given : ∀ {names : List String}, name ∈ names → .number text ∈ valuesFor names members :=
        mem_valuesFor there spelled
      have refused := nat?_of_unfit unfit
      simp only [known, List.mem_cons, List.not_mem_nil, or_false] at listed
      rcases listed with rfl | rfl | rfl | rfl
      · exact .inl ((Spoils.of_refused (given (by decide)) refused).required taken _)
      · exact .inr (.inl ((Spoils.of_refused (given (by decide)) refused).required taken _))
      · exact .inr (.inl ((Spoils.of_refused (given (by decide)) refused).required taken _))
      · have optional : (number text).optional? (nat? wordSize32) = none :=
          congrArg (Option.map some) refused
        exact .inr (.inr ((Spoils.of_refused (given (by decide)) optional).withDefault taken _ _))

theorem ofJson?_of_faulty (faulty : Faulty members) : ofJson? (.object members) = none := by
  unfold ofJson?
  cases taken : (object members).fields? 3 with
  | none => rfl
  | some fields =>
      rcases lost_of_faulty faulty taken with lost | lost | lost <;>
        simp only [lost, Option.bind_eq_bind, Option.bind_none, Option.bind_some,
          Option.bind_fun_none]

/-- A request is read off each of its renderings, and faulty lines are malformed. -/
theorem parse_line :
    (∀ (request : RateRequest) (members : List (List Char × Json)) (line : List Char),
      request.InRange → request.Renders members → IsLine (.object members) line →
      parse line = .ok request) ∧
    ∀ (members : List (List Char × Json)) (line : List Char),
      Faulty members → IsLine (.object members) line →
      ∃ reason, parse line = .error (.malformed reason) := by
  constructor
  · intro request members line inRange renders isLine
    unfold parse
    rw [parse?_trim isLine, Option.bind_some, ofJson?_of_renders inRange renders]
  · intro members line faulty isLine
    unfold parse
    rw [parse?_trim isLine, Option.bind_some, ofJson?_of_faulty faulty]
    exact ⟨_, rfl⟩

/-- The widest rate under its short name, a queue that is null and an unknown member, between a
no-break space and a line break; and a rate under both of its names. -/
theorem parse_line_of_short_name :
    parse (['\u00a0'] ++ "\x7b\"rate\" : 18446744073709551615,\"flow_id\":7,
      \"x\":[-1.5],\"queue\":null\x7d".toList ++ ['\n']) =
      .ok { flow := 7, rate := 18446744073709551615, queue := none } ∧
    ∃ reason, parse ([] ++ "\x7b\"flow_id\":7,\"rate\":1,\"rate_kbit\":1\x7d".toList ++ []) =
      .error (.malformed reason) := by
  constructor
  · refine parse_line.1 _
      [("rate".toList, ofNat 18446744073709551615), ("flow_id".toList, ofNat 7),
        (['x'], .array [.number ['-', '1', '.', '5']]), ("queue".toList, .null)] _ ?_ ?_ ?_
    · exact ⟨by decide, by decide, fun _ there => by cases there⟩
    · refine ⟨"rate", _, .inr rfl, .null, [("flow_id".toList, ofNat 7),
        ("rate".toList, ofNat 18446744073709551615), ("queue".toList, .null)],
        [(['x'], .array [.number ['-', '1', '.', '5']])], ?_, ?_, ?_⟩
      · exact .trans (.swap _ _ _) (.cons _ (.cons _ (.swap _ _ _)))
      · exact .cons ⟨rfl, rfl⟩ (.cons ⟨rfl, rfl⟩ (.cons ⟨rfl, rfl⟩ .nil))
      · exact List.forall_mem_singleton.2 ⟨"x", rfl, by decide⟩
    · exact ⟨_, _, _, rfl, List.forall_mem_singleton.2 (by decide),
        List.forall_mem_singleton.2 (by decide), spells_of_tokens? (by with_unfolding_all rfl)⟩
  · refine parse_line.2 [("flow_id".toList, .number ['7']), ("rate".toList, .number ['1']),
      ("rate_kbit".toList, .number ['1'])] _ ?_ ?_
    · exact .twoRates (.tail _ (.tail _ (.head _))) (.tail _ (.head _)) rfl rfl
    · exact ⟨_, _, _, rfl, List.forall_mem_nil _, List.forall_mem_nil _,
        spells_of_tokens? (by with_unfolding_all rfl)⟩

end RateRequest

end FlowSteer
