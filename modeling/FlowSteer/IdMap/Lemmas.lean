import FlowSteer.IdMap

/-!
# Look-ups in finite maps

`get?` is the view of a map: each operation is described by what a look-up finds after it.

* `get?_eq_some_iff`: a look-up finds exactly the entries;
* `get?_insert`, `get?_filter`, `get?_erase`, `get?_map`, `get?_modify`: one law for each
  operation;
* `ext`: maps that answer every look-up alike are equal.
-/

namespace FlowSteer

namespace IdMap

variable {α β : Type}

/-! ## Entries -/

theorem lookup_cons_eq_ite (id other : Nat) (value : α) (entries : List (Nat × α)) :
    ((other, value) :: entries).lookup id =
      if id = other then some value else entries.lookup id := by
  rw [List.lookup_cons]
  by_cases same : id = other
  · rw [if_pos same, beq_iff_eq.2 same]
  · rw [if_neg same, beq_eq_false_iff_ne.2 same]

theorem lookup_eq_some_iff {id : Nat} {value : α} {entries : List (Nat × α)}
    (ascending : entries.Pairwise (fun left right => left.1 < right.1)) :
    entries.lookup id = some value ↔ (id, value) ∈ entries := by
  induction entries with
  | nil => simp
  | cons head rest ih =>
      obtain ⟨before, tail⟩ := List.pairwise_cons.1 ascending
      obtain ⟨other, kept⟩ := head
      rw [lookup_cons_eq_ite, List.mem_cons, Prod.mk.injEq]
      by_cases same : id = other
      · subst same
        have absent : (id, value) ∉ rest := fun later => Nat.lt_irrefl id (before _ later)
        simp only [if_pos, Option.some.injEq, true_and, absent, or_false]
        exact eq_comm
      · simp only [same, if_false, false_and, false_or]
        exact ih tail

/-- A look-up finds exactly the entries. -/
theorem get?_eq_some_iff {map : IdMap α} {id : Nat} {value : α} :
    map.get? id = some value ↔ (id, value) ∈ map.toList :=
  lookup_eq_some_iff map.ascending

theorem get?_eq_none_iff {map : IdMap α} {id : Nat} : map.get? id = none ↔ id ∉ map.ids := by
  rw [Option.eq_none_iff_forall_ne_some, ids, List.mem_map]
  constructor
  · rintro missing ⟨entry, found, rfl⟩
    exact missing entry.2 (get?_eq_some_iff.2 found)
  · intro missing value found
    exact missing ⟨(id, value), get?_eq_some_iff.1 found, rfl⟩

theorem contains_iff {map : IdMap α} {id : Nat} : map.contains id = true ↔ id ∈ map.ids := by
  rw [contains, ← Option.ne_none_iff_isSome, ne_eq, get?_eq_none_iff, Decidable.not_not]

/-- Ids come in ascending order. -/
theorem ids_ascending (map : IdMap α) : map.ids.Pairwise (· < ·) := by
  rw [ids, List.pairwise_map]
  exact map.ascending

theorem ids_nodup (map : IdMap α) : map.ids.Nodup :=
  map.ids_ascending.imp Nat.ne_of_lt

theorem toList_nodup (map : IdMap α) : map.toList.Nodup :=
  map.ascending.imp fun below same => Nat.ne_of_lt below (congrArg Prod.fst same)

/-! ## Operations -/

@[simp] theorem get?_empty (id : Nat) : (empty : IdMap α).get? id = none := rfl

theorem lookup_insertEntry (id other : Nat) (value : α) (entries : List (Nat × α)) :
    (insertEntry id value entries).lookup other =
      if other = id then some value else entries.lookup other := by
  induction entries with
  | nil => rw [insertEntry, lookup_cons_eq_ite]
  | cons head rest ih =>
      obtain ⟨first, kept⟩ := head
      simp only [insertEntry]
      split
      · rw [lookup_cons_eq_ite]
      · split
        · rename_i equal
          subst equal
          simp only [lookup_cons_eq_ite]
          split <;> rfl
        · rename_i different
          rw [lookup_cons_eq_ite, lookup_cons_eq_ite, ih]
          by_cases same : other = first
          · subst same
            rw [if_pos rfl, if_pos rfl, if_neg (Ne.symm different)]
          · rw [if_neg same, if_neg same]

/-- A look-up after putting a value in place. -/
theorem get?_insert (map : IdMap α) (id other : Nat) (value : α) :
    (map.insert id value).get? other = if other = id then some value else map.get? other :=
  lookup_insertEntry id other value map.entries

@[simp] theorem get?_insert_self (map : IdMap α) (id : Nat) (value : α) :
    (map.insert id value).get? id = some value := by
  rw [get?_insert, if_pos rfl]

theorem get?_insert_of_ne {id other : Nat} (different : other ≠ id) (map : IdMap α) (value : α) :
    (map.insert id value).get? other = map.get? other := by
  rw [get?_insert, if_neg different]

/-- A look-up after dropping the entries that fail a test. -/
theorem get?_filter (map : IdMap α) (keep : Nat → α → Bool) (id : Nat) :
    (map.filter keep).get? id = (map.get? id).filter (keep id) := by
  apply Option.ext
  intro value
  rw [get?_eq_some_iff, Option.filter_eq_some_iff, get?_eq_some_iff]
  exact List.mem_filter

/-- A look-up after forgetting an id. -/
theorem get?_erase (map : IdMap α) (id other : Nat) :
    (map.erase id).get? other = if other = id then none else map.get? other := by
  rw [erase, get?_filter]
  by_cases same : other = id
  · simp [same]
  · rw [if_neg same]
    cases map.get? other <;> simp [same]

theorem lookup_map_snd (change : Nat → α → β) (id : Nat) (entries : List (Nat × α)) :
    (entries.map fun entry => (entry.1, change entry.1 entry.2)).lookup id =
      (entries.lookup id).map (change id) := by
  induction entries with
  | nil => rfl
  | cons head rest ih =>
      obtain ⟨other, kept⟩ := head
      rw [List.map_cons, lookup_cons_eq_ite, lookup_cons_eq_ite, ih]
      by_cases same : id = other
      · subst same
        rw [if_pos rfl, if_pos rfl, Option.map_some]
      · rw [if_neg same, if_neg same]

/-- A look-up after changing every value. -/
theorem get?_map (map : IdMap α) (change : Nat → α → β) (id : Nat) :
    (map.map change).get? id = (map.get? id).map (change id) :=
  lookup_map_snd change id map.entries

/-- A look-up after changing one value. -/
theorem get?_modify (map : IdMap α) (id other : Nat) (change : α → α) :
    (map.modify id change).get? other =
      if other = id then (map.get? other).map change else map.get? other := by
  rw [modify, get?_map]
  by_cases same : other = id
  · rw [if_pos same]
    simp [same]
  · rw [if_neg same]
    simp [same]

@[simp] theorem ids_map (map : IdMap α) (change : Nat → α → β) :
    (map.map change).ids = map.ids := by
  simp [ids, IdMap.map]

@[simp] theorem ids_modify (map : IdMap α) (id : Nat) (change : α → α) :
    (map.modify id change).ids = map.ids :=
  ids_map map _

/-! ## Equality -/

theorem eq_of_entries {left right : IdMap α} (same : left.entries = right.entries) :
    left = right := by
  cases left
  cases right
  cases same
  rfl

/-- Maps that answer every look-up alike are equal. -/
@[ext] theorem ext {left right : IdMap α} (agree : ∀ id, left.get? id = right.get? id) :
    left = right := by
  apply eq_of_entries
  have members : ∀ entry, entry ∈ left.toList ↔ entry ∈ right.toList := by
    intro entry
    have same := agree entry.1
    rw [Option.ext_iff] at same
    exact get?_eq_some_iff.symm.trans ((same entry.2).trans get?_eq_some_iff)
  have permuted := (List.perm_ext_iff_of_nodup left.toList_nodup right.toList_nodup).2 members
  exact permuted.eq_of_pairwise
    (fun first second _ _ below above => absurd (Nat.lt_trans below above) (Nat.lt_irrefl _))
    left.ascending right.ascending

/-- Putting a value in place again changes nothing. -/
theorem insert_of_get? {map : IdMap α} {id : Nat} {value : α} (found : map.get? id = some value) :
    map.insert id value = map := by
  apply ext
  intro other
  rw [get?_insert]
  split
  · rename_i same
    rw [same, found]
  · rfl

/-- Of two values put under one id the second stays. -/
theorem insert_insert (map : IdMap α) (id : Nat) (first second : α) :
    (map.insert id first).insert id second = map.insert id second := by
  apply ext
  intro other
  rw [get?_insert, get?_insert, get?_insert]
  split <;> rfl

/-- Changing a value is putting the changed value in place. -/
theorem modify_of_get? {map : IdMap α} {id : Nat} {value : α} (found : map.get? id = some value)
    (change : α → α) : map.modify id change = map.insert id (change value) := by
  apply ext
  intro other
  rw [get?_modify, get?_insert]
  split
  · rename_i same
    rw [same, found, Option.map_some]
  · rfl

/-- Two changes of one value are one change. -/
theorem modify_modify (map : IdMap α) (id : Nat) (first second : α → α) :
    (map.modify id first).modify id second = map.modify id (second ∘ first) := by
  apply ext
  intro other
  rw [get?_modify, get?_modify, get?_modify]
  split
  · exact Option.map_map ..
  · rfl

/-- Changing the value under an id that the map does not hold changes nothing. -/
theorem modify_of_absent {map : IdMap α} {id : Nat} (absent : map.get? id = none)
    (change : α → α) : map.modify id change = map := by
  apply ext
  intro other
  rw [get?_modify]
  split
  · rename_i same
    rw [same, absent, Option.map_none]
  · rfl

end IdMap

end FlowSteer
