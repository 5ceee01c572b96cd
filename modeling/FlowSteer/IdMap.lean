/-!
# Finite maps keyed by id

An `IdMap` keeps its entries in ascending order of their ids, each id at most once. The order is
part of the type: whatever lists queues, flows, records or limits lists them by ascending id, and
two maps that answer every look-up alike are equal.
-/

namespace FlowSteer

/-- Finite map from ids to values, entries ascending by id. -/
structure IdMap (α : Type) where
  /-- Entries in ascending order of their ids. -/
  entries : List (Nat × α) := []
  ascending : entries.Pairwise (fun left right => left.1 < right.1) := by simp

namespace IdMap

variable {α β : Type}

/-- The map without entries. -/
def empty : IdMap α := {}

instance : Inhabited (IdMap α) := ⟨empty⟩

instance [DecidableEq α] : DecidableEq (IdMap α) := fun left right =>
  if same : left.entries = right.entries then
    isTrue (by cases left; cases right; cases same; rfl)
  else isFalse (fun equal => same (congrArg IdMap.entries equal))

/-- The value under an id. -/
def get? (map : IdMap α) (id : Nat) : Option α := map.entries.lookup id

/-- Does the map hold the id. -/
def contains (map : IdMap α) (id : Nat) : Bool := (map.get? id).isSome

/-- Entries in ascending order of their ids. -/
def toList (map : IdMap α) : List (Nat × α) := map.entries

/-- Ids in ascending order. -/
def ids (map : IdMap α) : List Nat := map.entries.map Prod.fst

/-- Values in ascending order of their ids. -/
def values (map : IdMap α) : List α := map.entries.map Prod.snd

/-- Number of entries. -/
def size (map : IdMap α) : Nat := map.entries.length

/-- Sum of what a function makes of the values. -/
def total {M : Type} [Add M] [OfNat M 0] (map : IdMap α) (part : α → M) : M :=
  map.values.foldr (fun value rest => part value + rest) 0

/-- Is the map without entries. -/
def isEmpty (map : IdMap α) : Bool := map.entries.isEmpty

/-- Puts a value under an id into an ascending list of entries. -/
def insertEntry (id : Nat) (value : α) : List (Nat × α) → List (Nat × α)
  | [] => [(id, value)]
  | (other, kept) :: rest =>
      if id < other then (id, value) :: (other, kept) :: rest
      else if id = other then (id, value) :: rest
      else (other, kept) :: insertEntry id value rest

theorem eq_or_mem_of_mem_insertEntry {id : Nat} {value : α} {entry : Nat × α}
    {entries : List (Nat × α)} (found : entry ∈ insertEntry id value entries) :
    entry = (id, value) ∨ entry ∈ entries := by
  induction entries with
  | nil => simpa [insertEntry] using found
  | cons head rest ih =>
      simp only [insertEntry] at found
      split at found
      · simpa using found
      · split at found
        · rcases List.mem_cons.1 found with rfl | later
          · exact .inl rfl
          · exact .inr (List.mem_cons_of_mem _ later)
        · rcases List.mem_cons.1 found with rfl | later
          · exact .inr (List.mem_cons_self ..)
          · exact (ih later).imp_right (List.mem_cons_of_mem _)

theorem pairwise_insertEntry (id : Nat) (value : α) {entries : List (Nat × α)}
    (ascending : entries.Pairwise (fun left right => left.1 < right.1)) :
    (insertEntry id value entries).Pairwise (fun left right => left.1 < right.1) := by
  induction entries with
  | nil => simp [insertEntry]
  | cons head rest ih =>
      obtain ⟨before, tail⟩ := List.pairwise_cons.1 ascending
      simp only [insertEntry]
      split
      · rename_i smaller
        refine List.pairwise_cons.2 ⟨?_, ascending⟩
        intro entry found
        rcases List.mem_cons.1 found with rfl | later
        · exact smaller
        · exact Nat.lt_trans smaller (before entry later)
      · split
        · rename_i same
          subst same
          exact List.pairwise_cons.2 ⟨before, tail⟩
        · refine List.pairwise_cons.2 ⟨?_, ih tail⟩
          intro entry found
          rcases eq_or_mem_of_mem_insertEntry found with rfl | later
          · show head.1 < id
            omega
          · exact before entry later

/-- Puts a value under an id, in place of the one that was there. -/
def insert (map : IdMap α) (id : Nat) (value : α) : IdMap α where
  entries := insertEntry id value map.entries
  ascending := pairwise_insertEntry id value map.ascending

/-- Keeps the entries that pass a test. -/
def filter (keep : Nat → α → Bool) (map : IdMap α) : IdMap α where
  entries := map.entries.filter fun entry => keep entry.1 entry.2
  ascending := map.ascending.filter _

/-- Forgets an id. -/
def erase (map : IdMap α) (id : Nat) : IdMap α := map.filter fun other _ => other != id

/-- Changes every value. -/
def map (change : Nat → α → β) (map : IdMap α) : IdMap β where
  entries := map.entries.map fun entry => (entry.1, change entry.1 entry.2)
  ascending := by
    rw [List.pairwise_map]
    exact map.ascending

/-- Changes the value under one id, if there is one. -/
def modify (map : IdMap α) (id : Nat) (change : α → α) : IdMap α :=
  map.map fun other value => if other = id then change value else value

/-- Puts a list of entries into the map, the first of the list first. -/
def insertAll (map : IdMap α) (entries : List (Nat × α)) : IdMap α :=
  entries.foldl (fun map entry => map.insert entry.1 entry.2) map

end IdMap

end FlowSteer
