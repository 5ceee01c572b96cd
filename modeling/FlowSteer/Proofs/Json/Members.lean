import Mathlib.Data.List.Forall2
import FlowSteer.Json.Fields

/-!
# Members of an object

An object is read as a record by what its members are called, not by where they stand.

1. `valuesFor`: the values that members give for a field; `given_eq` says that a field is read from
   these and nothing else.
2. `Arranges`: some members in any order, with names spelled in any way, among others that are no
   field; `Arranges.withDefault_eq`: each field is then read from its member, or has its default.
3. `Spoils`: a field that is given twice, or by a value that is none of its own, is not read.
-/

namespace FlowSteer

namespace Json

/-! ## What a field is read from -/

/-- Is the name of a member one of some names, once escapes are resolved. -/
def isCalled (names : List String) (member : List Char × Json) : Bool :=
  names.any fun name => unescape? member.1 == some name.toList

/-- The values that members give for a field, which goes by one or more names. -/
def valuesFor (names : List String) (members : List (List Char × Json)) : List Json :=
  (members.filter (isCalled names)).map Prod.snd

variable {members named extra : List (List Char × Json)} {fields : Fields} {count position : Nat}
  {names known : List String} {α : Type} {read : Json → Option α}

theorem named_of_namedMembers? {texts : List (List Char × Json)}
    (read : namedMembers? members = some texts) :
    (texts.filter fun member => names.any fun name => name.toList == member.1).map Prod.snd =
      valuesFor names members := by
  induction members generalizing texts with
  | nil =>
      cases read
      rfl
  | cons member rest ih =>
      obtain ⟨body, value⟩ := member
      simp only [namedMembers?, Option.bind_eq_bind, Option.bind_eq_some_iff, Option.pure_def,
        Option.some.injEq] at read
      obtain ⟨name, spelled, others, further, rfl⟩ := read
      have same : isCalled names (body, value) = names.any fun other => other.toList == name := by
        unfold isCalled
        rw [spelled]
        congr 1
        funext other
        rw [Bool.eq_iff_iff, beq_iff_eq, beq_iff_eq, Option.some.injEq]
        exact eq_comm
      have later := ih further
      unfold valuesFor at later ⊢
      rw [List.filter_cons, List.filter_cons, same]
      split
      · rw [List.map_cons, List.map_cons, later]
      · exact later

/-- A field of an object is read from the members that have its name. -/
theorem given_eq (taken : (object members).fields? count = some fields) (position : Nat)
    (names : List String) : fields.given position names = valuesFor names members := by
  obtain ⟨texts, read, rfl⟩ := Option.map_eq_some_iff.1 taken
  exact named_of_namedMembers? read

theorem isCalled_of_spelled {member : List Char × Json} {name : String}
    (spelled : unescape? member.1 = some name.toList) :
    isCalled names member = names.contains name := by
  unfold isCalled
  rw [spelled, Bool.eq_iff_iff, List.contains_iff_mem, List.any_eq_true]
  constructor
  · rintro ⟨other, listed, same⟩
    rw [beq_iff_eq, Option.some.injEq, String.toList_inj] at same
    exact same ▸ listed
  · exact fun listed => ⟨name, listed, beq_self_eq_true _⟩

theorem mem_valuesFor {body : List Char} {value : Json} {name : String}
    (there : (body, value) ∈ members) (spelled : unescape? body = some name.toList)
    (listed : name ∈ names) : value ∈ valuesFor names members := by
  have called : isCalled names (body, value) = true := by
    rw [isCalled_of_spelled spelled]
    exact List.contains_iff_mem.2 listed
  exact List.mem_map.2 ⟨_, List.mem_filter.2 ⟨there, called⟩, rfl⟩

/-- A field with two names is given what is given under either of them. -/
theorem length_valuesFor_pair {first second : String} (distinct : first ≠ second)
    (members : List (List Char × Json)) :
    (valuesFor [first, second] members).length =
      (valuesFor [first] members).length + (valuesFor [second] members).length := by
  unfold valuesFor
  simp only [List.length_map]
  induction members with
  | nil => rfl
  | cons member rest ih =>
      have either : isCalled [first, second] member =
          (isCalled [first] member || isCalled [second] member) := by
        simp [isCalled]
      have notBoth : isCalled [first] member = true → isCalled [second] member = false := by
        simp only [isCalled, List.any_cons, List.any_nil, Bool.or_false, beq_iff_eq]
        intro spelled
        rw [spelled, beq_eq_false_iff_ne]
        intro same
        exact distinct (String.toList_inj.1 (Option.some.inj same))
      simp only [List.filter_cons, either]
      match one : isCalled [first] member, two : isCalled [second] member with
      | true, true => rw [notBoth one] at two; cases two
      | true, false | false, true =>
          simp only [Bool.or_false, Bool.or_true, Bool.false_eq_true, if_true, if_false,
            List.length_cons, ih]
          omega
      | false, false => simpa using ih

theorem exists_namedMembers? (texts : ∀ member ∈ members, (unescape? member.1).isSome) :
    ∃ named, namedMembers? members = some named := by
  induction members with
  | nil => exact ⟨[], rfl⟩
  | cons member rest ih =>
      obtain ⟨first, others⟩ := List.forall_mem_cons.1 texts
      obtain ⟨name, spelled⟩ := Option.isSome_iff_exists.1 first
      obtain ⟨named, read⟩ := ih others
      exact ⟨(name, member.2) :: named, by rw [namedMembers?, spelled, read]; rfl⟩

/-! ## Fields that are not read -/

/-- What the members give for a field cannot be read: it is given twice, or by a value that is none
of its own. -/
structure Spoils (names : List String) (read : Json → Option α)
    (members : List (List Char × Json)) : Prop where
  given : valuesFor names members ≠ []
  refused : ∀ value, valuesFor names members = [value] → read value = none

namespace Spoils

theorem of_twice (read : Json → Option α) (twice : 2 ≤ (valuesFor names members).length) :
    Spoils names read members := by
  constructor
  case given =>
    intro none
    rw [none] at twice
    cases twice
  case refused =>
    intro value once
    rw [once] at twice
    cases Nat.le_of_succ_le_succ twice

theorem of_refused {value : Json} (given : value ∈ valuesFor names members)
    (refused : read value = none) : Spoils names read members := by
  constructor
  case given => exact List.ne_nil_of_mem given
  case refused =>
    intro only once
    rw [once] at given
    rw [← List.mem_singleton.1 given, refused]

theorem withDefault (spoils : Spoils names read members)
    (taken : (object members).fields? count = some fields) (position : Nat) (default : α) :
    fields.withDefault position names read default = none := by
  obtain ⟨given, refused⟩ := spoils
  unfold Fields.withDefault
  rw [given_eq taken]
  match values : valuesFor names members with
  | [] => exact absurd values given
  | [value] => exact refused value values
  | _ :: _ :: _ => rfl

theorem required (spoils : Spoils names read members)
    (taken : (object members).fields? count = some fields) (position : Nat) :
    fields.required position names read = none := by
  obtain ⟨-, refused⟩ := spoils
  unfold Fields.required
  rw [given_eq taken]
  match values : valuesFor names members with
  | [] => rfl
  | [value] => exact refused value values
  | _ :: _ :: _ => rfl

end Spoils

/-- The name of a known member occurs twice or more. -/
def Repeats (known : List String) (members : List (List Char × Json)) : Prop :=
  ∃ name ∈ known, 2 ≤ members.countP fun member => unescape? member.1 == some name.toList

theorem Repeats.exists_twice (repeats : Repeats known members) :
    ∃ name ∈ known, 2 ≤ (valuesFor [name] members).length := by
  obtain ⟨name, listed, twice⟩ := repeats
  have same : isCalled [name] = fun member => unescape? member.1 == some name.toList := by
    funext member
    rw [isCalled, List.any_cons, List.any_nil, Bool.or_false]
  rw [List.countP_eq_length_filter, ← same] at twice
  exact ⟨name, listed, by rwa [valuesFor, List.length_map]⟩

theorem required_of_missing (missing : valuesFor names members = [])
    (taken : (object members).fields? count = some fields) (position : Nat)
    (read : Json → Option α) : fields.required position names read = none := by
  unfold Fields.required
  rw [given_eq taken, missing]

/-! ## Members in any order -/

/-- A member is a field under its name, however the name is spelled. -/
def IsWritten (member : List Char × Json) (field : String × Json) : Prop :=
  unescape? member.1 = some field.1.toList ∧ member.2 = field.2

/-- The members are fields that were to be written and others whose names are texts but none that
is known, all of them in any order. -/
def Arranges (known : List String) (written : List (String × Json))
    (members : List (List Char × Json)) : Prop :=
  ∃ named extra, members.Perm (named ++ extra) ∧
    List.Forall₂ IsWritten named written ∧
    ∀ member ∈ extra, ∃ name : String, unescape? member.1 = some name.toList ∧ name ∉ known

theorem valuesFor_append (names : List String) (first second : List (List Char × Json)) :
    valuesFor names (first ++ second) = valuesFor names first ++ valuesFor names second := by
  unfold valuesFor
  rw [List.filter_append, List.map_append]

theorem valuesFor_written {written : List (String × Json)}
    (spelled : List.Forall₂ IsWritten named written) :
    valuesFor names named =
      (written.filter fun field => names.contains field.1).map Prod.snd := by
  induction spelled with
  | nil => rfl
  | cons same _ ih =>
      unfold valuesFor at ih ⊢
      rw [List.filter_cons, List.filter_cons, isCalled_of_spelled same.1]
      split
      · rw [List.map_cons, List.map_cons, same.2, ih]
      · exact ih

theorem isSome_of_written {written : List (String × Json)}
    (spelled : List.Forall₂ IsWritten named written) :
    ∀ member ∈ named, (unescape? member.1).isSome := by
  induction spelled with
  | nil => exact fun _ there => absurd there List.not_mem_nil
  | cons same _ ih => exact List.forall_mem_cons.2 ⟨by rw [same.1]; rfl, ih⟩

theorem valuesFor_unknown
    (unknown : ∀ member ∈ extra, ∃ name : String,
      unescape? member.1 = some name.toList ∧ name ∉ known)
    (listed : ∀ name ∈ names, name ∈ known) : valuesFor names extra = [] := by
  have none : extra.filter (isCalled names) = [] := by
    rw [List.filter_eq_nil_iff]
    intro member there called
    obtain ⟨name, spelled, other⟩ := unknown member there
    rw [isCalled_of_spelled spelled, List.contains_iff_mem] at called
    exact other (listed name called)
  rw [valuesFor, none]
  rfl

namespace Arranges

variable {written : List (String × Json)}

theorem valuesFor_perm (arranges : Arranges known written members)
    (listed : ∀ name ∈ names, name ∈ known) :
    (valuesFor names members).Perm
      ((written.filter fun field => names.contains field.1).map Prod.snd) := by
  obtain ⟨named, extra, permuted, spelled, unknown⟩ := arranges
  have shuffled : (valuesFor names members).Perm (valuesFor names (named ++ extra)) :=
    (permuted.filter _).map _
  rw [valuesFor_append, valuesFor_unknown unknown listed, List.append_nil,
    valuesFor_written spelled] at shuffled
  exact shuffled

/-- A field that was to be written once is given once, and one that was not is not given. -/
theorem valuesFor_eq (arranges : Arranges known written members)
    (listed : ∀ name ∈ names, name ∈ known) {value : Option Json}
    (once : (written.filter fun field => names.contains field.1).map Prod.snd = value.toList) :
    valuesFor names members = value.toList := by
  have shuffled := arranges.valuesFor_perm listed
  rw [once] at shuffled
  cases value with
  | none => exact List.perm_nil.1 shuffled
  | some value => exact List.perm_singleton.1 shuffled

theorem exists_fields? (arranges : Arranges known written members) (count : Nat) :
    ∃ fields, (object members).fields? count = some fields := by
  obtain ⟨named, extra, permuted, spelled, unknown⟩ := arranges
  have texts : ∀ member ∈ members, (unescape? member.1).isSome := by
    intro member there
    rcases List.mem_append.1 (permuted.mem_iff.1 there) with inNamed | inExtra
    · exact isSome_of_written spelled member inNamed
    · obtain ⟨name, spelledName, -⟩ := unknown member inExtra
      rw [spelledName]
      rfl
  obtain ⟨read, result⟩ := exists_namedMembers? texts
  exact ⟨.byName read, by rw [fields?, result]; rfl⟩

end Arranges

/-- A look-up in a list with distinct names, as a filter finds it. -/
theorem filter_contains_singleton {written : List (String × Json)}
    (distinct : (written.map Prod.fst).Nodup) (name : String) :
    (written.filter fun field => [name].contains field.1).map Prod.snd =
      (written.lookup name).toList := by
  induction written with
  | nil => rfl
  | cons field rest ih =>
      obtain ⟨first, value⟩ := field
      obtain ⟨fresh, others⟩ := List.nodup_cons.1 distinct
      rw [List.lookup_cons, List.filter_cons]
      by_cases same : name = first
      · subst same
        have absent : rest.filter (fun field => [name].contains field.1) = [] := by
          rw [List.filter_eq_nil_iff]
          intro other there called
          rw [List.contains_iff_mem, List.mem_singleton] at called
          exact fresh (List.mem_map.2 ⟨other, there, called⟩)
        rw [absent, beq_self_eq_true, if_pos (by simp)]
        rfl
      · have other : ([name].contains first) = false := by simp [Ne.symm same]
        rw [other, beq_eq_false_iff_ne.2 same]
        exact ih others

/-- A field that was to be written once is read from its value. -/
theorem Arranges.required_eq {written : List (String × Json)}
    (arranges : Arranges known written members)
    (taken : (object members).fields? count = some fields) (listed : ∀ name ∈ names, name ∈ known)
    {value : Json}
    (once : (written.filter fun field => names.contains field.1).map Prod.snd = [value])
    (position : Nat) (read : Json → Option α) :
    fields.required position names read = read value := by
  have given : valuesFor names members = (some value).toList := arranges.valuesFor_eq listed once
  unfold Fields.required
  rw [given_eq taken, given]
  rfl

/-- A field that may be left out is read from its value if that was to be written. -/
theorem Arranges.withDefault_of_once {written : List (String × Json)}
    (arranges : Arranges known written members)
    (taken : (object members).fields? count = some fields) (listed : ∀ name ∈ names, name ∈ known)
    (value : Option Json)
    (once : (written.filter fun field => names.contains field.1).map Prod.snd = value.toList)
    (position : Nat) (read : Json → Option α) (default : α) :
    fields.withDefault position names read default = value.elim (some default) read := by
  have given : valuesFor names members = value.toList := arranges.valuesFor_eq listed once
  unfold Fields.withDefault
  rw [given_eq taken, given]
  cases value <;> rfl

/-- A field of an object in which some fields are arranged is looked up under its name. -/
theorem Arranges.withDefault_eq {written : List (String × Json)}
    (arranges : Arranges known written members) (distinct : (written.map Prod.fst).Nodup)
    (taken : (object members).fields? count = some fields) {name : String} (listed : name ∈ known)
    (position : Nat) (read : Json → Option α) (default : α) :
    fields.withDefault position [name] read default =
      (written.lookup name).elim (some default) read :=
  arranges.withDefault_of_once taken (List.forall_mem_singleton.2 listed) _
    (filter_contains_singleton distinct name) position read default

end Json

end FlowSteer
