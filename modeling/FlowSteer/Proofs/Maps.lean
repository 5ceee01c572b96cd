import Mathlib.Algebra.BigOperators.Group.List.Basic
import Mathlib.Algebra.Order.BigOperators.Group.List
import Mathlib.Algebra.Order.Group.Nat
import FlowSteer.IdMap.Lemmas

/-!
# More about finite maps

Look-ups after putting one value under several ids, the number of entries, and sums over the values
of a map.
-/

namespace FlowSteer

namespace IdMap

variable {α : Type}

/-- A test that every entry passes drops none. -/
theorem filter_true (map : IdMap α) : map.filter (fun _ _ => true) = map := by
  ext1 id
  rw [get?_filter]
  cases map.get? id <;> rfl

/-- A look-up after putting one value under several ids. -/
theorem get?_insertAll_const (map : IdMap α) {β : Type} (ids : List β) (key : β → Nat) (value : α)
    (id : Nat) :
    (map.insertAll (ids.map fun item => (key item, value))).get? id =
      if id ∈ ids.map key then some value else map.get? id := by
  induction ids generalizing map with
  | nil => rfl
  | cons item rest ih =>
      have unfolded : map.insertAll ((item :: rest).map fun item => (key item, value)) =
          (map.insert (key item) value).insertAll (rest.map fun item => (key item, value)) := rfl
      rw [unfolded, ih, get?_insert, List.map_cons]
      by_cases later : id ∈ rest.map key
      · rw [if_pos later, if_pos (List.mem_cons_of_mem _ later)]
      · by_cases first : id = key item
        · rw [if_neg later, if_pos first, if_pos (first ▸ List.mem_cons_self)]
        · rw [if_neg later, if_neg first, if_neg]
          exact fun member => (List.mem_cons.1 member).elim first later

/-- Putting other values in place leaves the number of entries. -/
theorem size_insertAll_of_contains {map : IdMap α} {entries : List (Nat × α)}
    (present : ∀ entry ∈ entries, map.contains entry.1 = true) :
    (map.insertAll entries).size = map.size := by
  induction entries generalizing map with
  | nil => rfl
  | cons entry rest ih =>
      obtain ⟨first, later⟩ := List.forall_mem_cons.1 present
      obtain ⟨old, found⟩ := Option.isSome_iff_exists.1 first
      have inPlace : map.insert entry.1 entry.2 = map.modify entry.1 fun _ => entry.2 :=
        (modify_of_get? found fun _ => entry.2).symm
      have ids : (map.insert entry.1 entry.2).ids = map.ids := by rw [inPlace, ids_modify]
      have size : (map.insert entry.1 entry.2).size = map.size := by
        rw [inPlace]
        exact List.length_map _
      show ((map.insert entry.1 entry.2).insertAll rest).size = map.size
      rw [ih, size]
      intro other member
      rw [contains_iff, ids, ← contains_iff]
      exact later other member

/-! ## Sums -/

section Total

variable {M : Type} [AddCommMonoid M]

theorem total_eq_sum (map : IdMap α) (part : α → M) :
    map.total part = (map.values.map part).sum := by
  rw [List.sum, List.foldr_map]
  rfl

theorem sum_insertEntry (part : α → M) (id : Nat) (value : α) {entries : List (Nat × α)}
    (ascending : entries.Pairwise (fun left right => left.1 < right.1)) :
    ((insertEntry id value entries).map fun entry => part entry.2).sum +
        ((entries.lookup id).map part).getD 0 =
      (entries.map fun entry => part entry.2).sum + part value := by
  induction entries with
  | nil => simp [insertEntry]
  | cons head rest ih =>
      obtain ⟨other, kept⟩ := head
      obtain ⟨before, tail⟩ := List.pairwise_cons.1 ascending
      simp only [insertEntry]
      by_cases smaller : id < other
      · have absent : ((other, kept) :: rest).lookup id = none := by
          rw [Option.eq_none_iff_forall_ne_some]
          intro found present
          rcases List.mem_cons.1 ((lookup_eq_some_iff ascending).1 present) with same | later
          · exact Nat.ne_of_lt smaller (congrArg Prod.fst same)
          · exact Nat.lt_asymm smaller (before _ later)
        rw [if_pos smaller, absent, List.map_cons, List.sum_cons, Option.map_none,
          Option.getD_none, add_zero, add_comm]
      · rw [if_neg smaller, lookup_cons_eq_ite]
        by_cases same : id = other
        · rw [if_pos same, if_pos same, List.map_cons, List.map_cons, List.sum_cons, List.sum_cons,
            Option.map_some, Option.getD_some, add_comm (part value), add_right_comm,
            add_comm (part kept)]
        · rw [if_neg same, if_neg same, List.map_cons, List.map_cons, List.sum_cons, List.sum_cons,
            add_assoc, ih tail, add_assoc]

/-- Putting a value in place adds its part and takes off the part of the one before. -/
theorem total_insert (map : IdMap α) (part : α → M) (id : Nat) (value : α) :
    (map.insert id value).total part + ((map.get? id).map part).getD 0 =
      map.total part + part value := by
  have summed := sum_insertEntry part id value map.ascending
  rw [total_eq_sum, total_eq_sum, values, values, List.map_map, List.map_map]
  exact summed

theorem total_map {β : Type} (map : IdMap α) (change : α → β) (part : β → M) :
    (map.map fun _ => change).total part = map.total fun value => part (change value) := by
  rw [total_eq_sum, total_eq_sum, values, values, IdMap.map, List.map_map, List.map_map,
    List.map_map]
  rfl

/-- Maps with the same parts have the same total. -/
theorem total_congr {first second : IdMap α} {part : α → M}
    (same : ∀ id, (first.get? id).map part = (second.get? id).map part) :
    first.total part = second.total part := by
  have equal : (first.map fun _ => part) = second.map fun _ => part := by
    ext1 id
    rw [get?_map, get?_map, same]
  have totals := congrArg (fun parts => parts.total fun value => value) equal
  simp only [total_map] at totals
  exact totals

end Total

/-- Parts that stay below a bound add up to no more than that many times the bound. -/
theorem total_le {map : IdMap α} {part : α → Nat} {bound : Nat}
    (each : ∀ value ∈ map.values, part value ≤ bound) : map.total part ≤ map.size * bound := by
  have summed := List.sum_le_card_nsmul (map.values.map part) bound (List.forall_mem_map.2 each)
  rw [List.length_map, values, List.length_map] at summed
  rw [total_eq_sum]
  exact summed

end IdMap

end FlowSteer
