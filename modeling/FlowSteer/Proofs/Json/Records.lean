import FlowSteer.Proofs.Json.Members
import FlowSteer.Proofs.Json.Writing

/-!
# Records read back

A record that is written by name is read by name: a field has the value of its only member.

* `decimal_toDigits`, `uint32?_ofNat`, `uint64?_ofNat`: numbers of all widths are read as written;
* `unescape?_of_plain`: names that need no escape are read as written;
* `exists_fields`: a field is looked up under its name, and has its default if it is absent.
-/

namespace FlowSteer

namespace Json

/-! ## Numbers -/

theorem decimal_toDigits (n : Nat) : decimal (Nat.toDigits 10 n) = n := by
  have value := Nat.ofDigitChars_ten_toDigits (n := n)
  unfold Nat.ofDigitChars at value
  unfold decimal
  simp only [Nat.mul_comm 10] at value
  exact value

theorem nat?_ofNat {bound n : Nat} (fits : n < bound) : (ofNat n).nat? bound = some n := by
  have digits : ∀ c ∈ Nat.toDigits 10 n, c.isDigit = true :=
    fun c member => Nat.isDigit_of_mem_toDigits (by decide) (by decide) member
  have written : (Nat.toDigits 10 n).isEmpty = false := by
    rw [List.isEmpty_eq_false_iff]
    exact Nat.toDigits_ne_nil
  unfold ofNat nat?
  simp only [decimal_toDigits, written, List.all_eq_true.2 digits, decide_eq_true fits]
  rfl

theorem uint32?_ofNat (word : UInt32) : (ofNat word.toNat).uint32? = some word := by
  unfold uint32?
  rw [nat?_ofNat word.toNat_lt, Option.map_some, UInt32.ofNat_toNat]

theorem uint64?_ofNat (word : UInt64) : (ofNat word.toNat).uint64? = some word := by
  unfold uint64?
  rw [nat?_ofNat word.toNat_lt, Option.map_some, UInt64.ofNat_toNat]

theorem bool?_bool (value : Bool) : (bool value).bool? = some value := rfl

/-! ## Fields -/

theorem unescape?_of_plain {body : List Char} (plain : ∀ c ∈ body, isPlain c = true) :
    unescape? body = some body := by
  induction body with
  | nil => rfl
  | cons c rest ih =>
      obtain ⟨first, others⟩ := List.forall_mem_cons.1 plain
      have noEscape : c ≠ '\\' := by
        rintro rfl
        cases first
      rw [unescape?, ih others]
      · rfl
      all_goals
        intros
        contradiction

/-- Fields that are written one after another are arranged, whichever names are known. -/
theorem arranges_of_plain {members : List (String × Json)}
    (plain : ∀ name ∈ members.map Prod.fst, name.toList.all isPlain = true)
    (known : List String) :
    Arranges known members (members.map fun member => (member.1.toList, member.2)) := by
  refine ⟨members.map fun member => (member.1.toList, member.2), [], ?_, ?_, ?_⟩
  · rw [List.append_nil]
  · rw [List.forall₂_map_left_iff, List.forall₂_same]
    intro member there
    have name := plain member.1 (List.mem_map_of_mem there)
    exact ⟨unescape?_of_plain (List.all_eq_true.1 name), rfl⟩
  · exact fun _ there => absurd there List.not_mem_nil

/-- The fields of a record are looked up under their names. -/
theorem exists_fields (count : Nat) {members : List (String × Json)}
    (named : WellNamed (members.map Prod.fst)) :
    ∃ fields, (ofMembers members).fields? count = some fields ∧
      ∀ (α : Type) (position : Nat) (name : String) (read : Json → Option α) (default : α),
        fields.withDefault position [name] read default =
          (members.lookup name).elim (some default) read := by
  obtain ⟨distinct, plain⟩ := named
  obtain ⟨fields, taken⟩ := (arranges_of_plain plain []).exists_fields? count
  refine ⟨fields, taken, ?_⟩
  intro α position name read default
  exact (arranges_of_plain plain [name]).withDefault_eq distinct taken List.mem_cons_self position
    read default

end Json

end FlowSteer
