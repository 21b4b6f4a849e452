/-!
# Maps sorted by key

A map from texts to values is the list of its entries in ascending order of
keys, texts being ordered by their code points. The order is part of the type,
so a map has one form and its entries are always listed sorted.
-/

namespace RestQuery

/-- A finite map from texts, listed in ascending order of keys. -/
structure SortedMap (α : Type) where
  entries : List (String × α)
  ascending : entries.Pairwise fun left right => left.1 < right.1

namespace SortedMap

variable {α β : Type}

/-- The map without entries. -/
def empty : SortedMap α := ⟨[], .nil⟩

instance : EmptyCollection (SortedMap α) := ⟨empty⟩

instance : Inhabited (SortedMap α) := ⟨empty⟩

instance [DecidableEq α] : DecidableEq (SortedMap α) := fun left right =>
  if same : left.entries = right.entries then
    isTrue (by cases left; cases right; cases same; rfl)
  else isFalse fun equal => same (equal ▸ rfl)

/-- Entries with the value at a key set: an equal key is replaced, a new one is
put at its place in the order. -/
def insertEntry
    (key : String)
    (value : α) :
    List (String × α) → List (String × α)
  | [] => [(key, value)]
  | (other, old) :: rest =>
      if key < other then (key, value) :: (other, old) :: rest
      else if key = other then (key, value) :: rest
      else (other, old) :: insertEntry key value rest

theorem mem_insertEntry
    {key : String}
    {value : α}
    {entries : List (String × α)}
    {entry : String × α}
    (member : entry ∈ insertEntry key value entries) :
    entry = (key, value) ∨ entry ∈ entries := by
  induction entries with
  | nil => simpa [insertEntry] using member
  | cons head rest ih =>
      simp only [insertEntry] at member
      split at member
      · simpa using member
      · split at member
        · rcases List.mem_cons.mp member with new | old
          · exact .inl new
          · exact .inr (List.mem_cons_of_mem _ old)
        · rcases List.mem_cons.mp member with first | later
          · exact .inr (first ▸ List.mem_cons_self)
          · rcases ih later with new | old
            · exact .inl new
            · exact .inr (List.mem_cons_of_mem _ old)

theorem lt_of_not_lt_of_ne
    {left right : String}
    (notBelow : ¬left < right)
    (different : left ≠ right) :
    right < left := by
  refine String.not_le.mp fun below => different (String.le_antisymm below ?_)
  exact String.not_lt.mp notBelow

theorem ascending_insertEntry
    (key : String)
    (value : α)
    {entries : List (String × α)}
    (ascending : entries.Pairwise fun left right => left.1 < right.1) :
    (insertEntry key value entries).Pairwise fun left right => left.1 < right.1 := by
  induction entries with
  | nil => simp [insertEntry]
  | cons head rest ih =>
      have headBelow := (List.pairwise_cons.mp ascending).1
      have restAscending := (List.pairwise_cons.mp ascending).2
      simp only [insertEntry]
      split
      · next below =>
          refine List.pairwise_cons.mpr ⟨?_, ascending⟩
          intro entry member
          rcases List.mem_cons.mp member with same | later
          · exact same ▸ below
          · exact String.lt_trans below (headBelow entry later)
      · split
        · next same =>
            refine List.pairwise_cons.mpr ⟨?_, restAscending⟩
            intro entry member
            exact same ▸ headBelow entry member
        · next notBelow different =>
            refine List.pairwise_cons.mpr ⟨?_, ih restAscending⟩
            intro entry member
            rcases mem_insertEntry member with new | old
            · exact new ▸ lt_of_not_lt_of_ne notBelow different
            · exact headBelow entry old

/-- Set the value at a key. -/
def insert (map : SortedMap α) (key : String) (value : α) : SortedMap α :=
  ⟨insertEntry key value map.entries, ascending_insertEntry key value map.ascending⟩

/-- The map of a list of pairs; of several pairs with one key the last
counts. -/
def ofList (pairs : List (String × α)) : SortedMap α :=
  pairs.foldl (fun map pair => map.insert pair.1 pair.2) empty

/-- The entries whose key satisfies `p`. -/
def filterKeys (p : String → Bool) (map : SortedMap α) : SortedMap α :=
  ⟨map.entries.filter fun entry => p entry.1, map.ascending.filter _⟩

/-- The first entry in the order whose key satisfies `p`. -/
def findKey? (p : String → Bool) (map : SortedMap α) : Option (String × α) :=
  map.entries.find? fun entry => p entry.1

/-- The value at a key. -/
def get? (map : SortedMap α) (key : String) : Option α :=
  (map.findKey? (· == key)).map (·.2)

/-- The number of entries. -/
def size (map : SortedMap α) : Nat := map.entries.length

/-- Apply a function to every value. -/
def mapValues (f : α → β) (map : SortedMap α) : SortedMap β :=
  ⟨map.entries.map fun entry => (entry.1, f entry.2),
    List.pairwise_map.mpr map.ascending⟩

end SortedMap
end RestQuery
