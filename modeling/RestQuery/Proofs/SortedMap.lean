import Mathlib.Data.List.Induction
import Mathlib.Data.List.Sort
import RestQuery.SortedMap

/-!
# Maps are determined by their entries

Inserting the entries of a map in their order builds the map again. The keys and
the entries of a map are views of it that insertion and selection respect; the
order in which the entries are listed says nothing beyond them, and only decides
which of several keys is found first.
-/

namespace RestQuery
namespace SortedMap

variable {α β : Type}

/-- Two maps with the same entries are the same. -/
theorem ext_entries
    {left right : SortedMap α}
    (same : left.entries = right.entries) :
    left = right := by
  cases left
  cases right
  cases same
  rfl

/-- A key above all others is put at the end. -/
theorem insertEntry_of_above
    {key : String}
    {entries : List (String × α)}
    (above : ∀ entry ∈ entries, entry.1 < key)
    (value : α) :
    insertEntry key value entries = entries ++ [(key, value)] := by
  induction entries with
  | nil => rfl
  | cons entry rest inductionHypothesis =>
      have below : entry.1 < key := above entry List.mem_cons_self
      have restAbove : ∀ other ∈ rest, other.1 < key :=
        fun other member => above other (List.mem_cons_of_mem entry member)
      have different : key ≠ entry.1 := by
        rintro rfl
        exact String.lt_irrefl _ below
      rw [insertEntry, if_neg (String.lt_asymm below), if_neg different,
        inductionHypothesis restAbove, List.cons_append]

/-- Inserting ascending entries above those of a map appends them. -/
theorem entries_foldl_insert
    (map : SortedMap α)
    {entries : List (String × α)}
    (ascending : (map.entries ++ entries).Pairwise fun left right => left.1 < right.1) :
    (entries.foldl (fun map entry => map.insert entry.1 entry.2) map).entries =
      map.entries ++ entries := by
  induction entries generalizing map with
  | nil => simp
  | cons entry rest inductionHypothesis =>
      have above : ∀ other ∈ map.entries, other.1 < entry.1 :=
        fun other member =>
          (List.pairwise_append.mp ascending).2.2 other member entry List.mem_cons_self
      have inserted : (map.insert entry.1 entry.2).entries = map.entries ++ [entry] :=
        insertEntry_of_above above entry.2
      rw [List.foldl_cons, inductionHypothesis, inserted, List.append_assoc,
        List.singleton_append]
      rwa [inserted, List.append_assoc, List.singleton_append]

/-- The entries of a map make up the map. -/
theorem ofList_entries (map : SortedMap α) : ofList map.entries = map :=
  ext_entries (entries_foldl_insert empty map.ascending)

/-! ## Entries -/

theorem mem_insertEntry_iff
    {key : String}
    {value : α}
    {entries : List (String × α)}
    (ascending : entries.Pairwise fun left right => left.1 < right.1)
    {entry : String × α} :
    entry ∈ insertEntry key value entries ↔
      entry = (key, value) ∨ entry ∈ entries ∧ entry.1 ≠ key := by
  induction entries with
  | nil => simp [insertEntry]
  | cons head rest inductionHypothesis =>
      obtain ⟨headBelow, restAscending⟩ := List.pairwise_cons.mp ascending
      have ofRest := inductionHypothesis restAscending
      by_cases below : key < head.1
      · have apart : ∀ other ∈ head :: rest, other.1 ≠ key := by
          refine List.forall_mem_cons.mpr ⟨(String.ne_of_lt below).symm, ?_⟩
          intro other member
          exact (String.ne_of_lt (String.lt_trans below (headBelow other member))).symm
        rw [insertEntry, if_pos below, List.mem_cons]
        apply or_congr_right
        exact (and_iff_left_of_imp (apart entry)).symm
      · by_cases same : key = head.1
        · have apart : ∀ other ∈ rest, other.1 ≠ key := by
            intro other member
            exact same ▸ (String.ne_of_lt (headBelow other member)).symm
          have headDropped : ¬(entry = head ∧ entry.1 ≠ key) := by
            rintro ⟨rfl, different⟩
            exact different same.symm
          rw [insertEntry, if_neg below, if_pos same, List.mem_cons, List.mem_cons,
            or_and_right, or_iff_right headDropped]
          apply or_congr_right
          exact (and_iff_left_of_imp (apart entry)).symm
        · have headKept : entry = head → entry.1 ≠ key := by
            rintro rfl
            exact fun equal => same equal.symm
          rw [insertEntry, if_neg below, if_neg same, List.mem_cons, ofRest, List.mem_cons,
            or_and_right, and_iff_left_of_imp headKept]
          exact or_left_comm

/-- After an insertion there are the new entry and the old ones of other keys. -/
theorem mem_entries_insert
    {map : SortedMap α}
    {key : String}
    {value : α}
    {entry : String × α} :
    entry ∈ (map.insert key value).entries ↔
      entry = (key, value) ∨ entry ∈ map.entries ∧ entry.1 ≠ key :=
  mem_insertEntry_iff map.ascending

theorem mem_entries_filterKeys
    {p : String → Bool}
    {map : SortedMap α}
    {entry : String × α} :
    entry ∈ (map.filterKeys p).entries ↔ entry ∈ map.entries ∧ p entry.1 = true :=
  List.mem_filter

/-- Maps with the same entries, listed in whatever order, are the same. -/
theorem ext_mem
    {left right : SortedMap α}
    (same : ∀ entry, entry ∈ left.entries ↔ entry ∈ right.entries) :
    left = right := by
  have irreflexive : Std.Irrefl fun left right : String × α => left.1 < right.1 :=
    ⟨fun entry => String.lt_irrefl entry.1⟩
  have asymmetric : Std.Antisymm fun left right : String × α => left.1 < right.1 :=
    ⟨fun _ _ below above => absurd above (String.lt_asymm below)⟩
  apply ext_entries
  exact left.ascending.eq_of_mem_iff right.ascending same

/-! ## Keys -/

/-- The keys of a map. -/
def keys (map : SortedMap α) : List String := map.entries.map (·.1)

/-- Insertion adds its key to the others. -/
@[simp] theorem mem_keys_insert
    (map : SortedMap α)
    (key : String)
    (value : α)
    (other : String) :
    other ∈ (map.insert key value).keys ↔ other = key ∨ other ∈ map.keys := by
  simp only [keys, List.mem_map, mem_entries_insert]
  constructor
  · rintro ⟨entry, rfl | ⟨isOld, -⟩, rfl⟩
    · exact .inl rfl
    · exact .inr ⟨entry, isOld, rfl⟩
  · rintro (rfl | ⟨entry, isOld, rfl⟩)
    · exact ⟨(other, value), .inl rfl, rfl⟩
    · by_cases same : entry.1 = key
      · exact ⟨(key, value), .inl rfl, same.symm⟩
      · exact ⟨entry, .inr ⟨isOld, same⟩, rfl⟩

/-- Selection keeps the keys that satisfy the predicate. -/
@[simp] theorem mem_keys_filterKeys
    (p : String → Bool)
    (map : SortedMap α)
    (key : String) :
    key ∈ (map.filterKeys p).keys ↔ key ∈ map.keys ∧ p key = true := by
  simp [keys, filterKeys]

/-- No key has two entries. -/
theorem eq_of_mem_entries
    {map : SortedMap α}
    {left right : String × α}
    (leftMember : left ∈ map.entries)
    (rightMember : right ∈ map.entries)
    (same : left.1 = right.1) :
    left = right := by
  have distinct : map.keys.Nodup :=
    List.pairwise_map.mpr (map.ascending.imp String.ne_of_lt)
  exact List.inj_on_of_nodup_map distinct leftMember rightMember same

/-- The entry that is found is the first one in the order whose key satisfies the
predicate. -/
theorem isLeast_of_findKey?
    {p : String → Bool}
    {map : SortedMap α}
    {entry : String × α}
    (found : map.findKey? p = some entry) :
    entry ∈ (map.filterKeys p).entries ∧
      ∀ other ∈ (map.filterKeys p).entries, entry.1 ≤ other.1 := by
  obtain ⟨satisfies, before, after, shape, skipped⟩ := List.find?_eq_some_iff_append.mp found
  have member : entry ∈ map.entries := shape ▸ List.mem_append_right before List.mem_cons_self
  refine ⟨mem_entries_filterKeys.mpr ⟨member, satisfies⟩, ?_⟩
  intro other otherMember
  obtain ⟨isEntry, otherSatisfies⟩ := mem_entries_filterKeys.mp otherMember
  have ordered := map.ascending
  rw [shape] at isEntry ordered
  rcases List.mem_append.mp isEntry with earlier | later
  · have unsatisfied := skipped other earlier
    rw [otherSatisfies] at unsatisfied
    cases unsatisfied
  · rcases List.mem_cons.mp later with rfl | behind
    · exact String.le_refl _
    · have above := (List.pairwise_cons.mp (List.pairwise_append.mp ordered).2.1).1
      exact String.not_lt.mp (String.lt_asymm (above other behind))

/-- An entry is found exactly if it is the first one in the order whose key satisfies
the predicate. -/
theorem findKey?_eq_some_iff
    {p : String → Bool}
    {map : SortedMap α}
    {entry : String × α} :
    map.findKey? p = some entry ↔
      entry ∈ (map.filterKeys p).entries ∧
        ∀ other ∈ (map.filterKeys p).entries, entry.1 ≤ other.1 := by
  constructor
  · exact isLeast_of_findKey?
  · rintro ⟨member, least⟩
    obtain ⟨isEntry, satisfies⟩ := mem_entries_filterKeys.mp member
    have isFound : (map.findKey? p).isSome :=
      List.find?_isSome.mpr ⟨entry, isEntry, satisfies⟩
    obtain ⟨first, found⟩ := Option.isSome_iff_exists.mp isFound
    obtain ⟨firstMember, firstLeast⟩ := isLeast_of_findKey? found
    have sameKey : first.1 = entry.1 :=
      String.le_antisymm (firstLeast entry member) (least first firstMember)
    rw [found, eq_of_mem_entries firstMember member sameKey]

/-! ## Maps of lists of pairs -/

theorem ofList_append_singleton (pairs : List (String × α)) (last : String × α) :
    ofList (pairs ++ [last]) = (ofList pairs).insert last.1 last.2 :=
  List.foldl_append

/-- The keys of the pairs are those of the map. -/
theorem mem_keys_ofList {pairs : List (String × α)} {key : String} :
    key ∈ (ofList pairs).keys ↔ key ∈ pairs.map (·.1) := by
  induction pairs using List.reverseRecOn with
  | nil => simp [ofList, empty, keys]
  | append_singleton pairs last inductionHypothesis =>
      rw [ofList_append_singleton, mem_keys_insert, inductionHypothesis]
      simp [or_comm]

/-- Of the pairs of a key the last one is the entry of the map. -/
theorem mem_entries_ofList
    {pairs : List (String × α)}
    {entry : String × α} :
    entry ∈ (ofList pairs).entries ↔
      (pairs.filter fun pair => pair.1 == entry.1).getLast? = some entry := by
  induction pairs using List.reverseRecOn with
  | nil => simp [ofList, empty]
  | append_singleton pairs last inductionHypothesis =>
      rw [ofList_append_singleton, mem_entries_insert, inductionHypothesis, List.filter_append]
      change entry = last ∨ _ ↔ _
      by_cases same : last.1 = entry.1
      · simp [same, eq_comm]
      · have different : entry ≠ last := by
          rintro rfl
          exact same rfl
        simp [same, different, Ne.symm same]

/-- Among some pairs one prevails when their map is searched: its key is the first one
in the order, and it is the last pair with this key. -/
structure Prevails (pairs : List (String × α)) (pair : String × α) : Prop where
  first : ∀ other ∈ pairs, pair.1 ≤ other.1
  last : (pairs.filter fun other => other.1 == pair.1).getLast? = some pair

theorem Prevails.mem {pairs : List (String × α)} {pair : String × α}
    (prevails : Prevails pairs pair) :
    pair ∈ pairs :=
  List.mem_of_mem_filter (List.mem_of_getLast? prevails.last)

/-- Among pairs of one key the last one prevails. -/
theorem prevails_iff_of_one_key
    {pairs : List (String × α)}
    (one : ∀ left ∈ pairs, ∀ right ∈ pairs, left.1 = right.1)
    {pair : String × α} :
    Prevails pairs pair ↔ pairs.getLast? = some pair := by
  have all (member : pair ∈ pairs) :
      (pairs.filter fun other => other.1 == pair.1) = pairs :=
    List.filter_eq_self.mpr fun other isOther => beq_iff_eq.mpr (one other isOther pair member)
  constructor
  · intro prevails
    rw [← prevails.last, all prevails.mem]
  · intro isLast
    have member := List.mem_of_getLast? isLast
    refine ⟨fun other isOther => ?_, (all member).symm ▸ isLast⟩
    have same := one pair member other isOther
    exact same ▸ String.le_refl pair.1

/-- What is said of keys holds of all entries or of none, whatever the values are. -/
theorem forall_mem_iff_of_keys
    {left right : List (String × α)}
    (same : ∀ key, key ∈ left.map (·.1) ↔ key ∈ right.map (·.1))
    (claim : String → Prop) :
    (∀ entry ∈ left, claim entry.1) ↔ ∀ entry ∈ right, claim entry.1 := by
  calc
    (∀ entry ∈ left, claim entry.1)
      ↔ ∀ key ∈ left.map (·.1), claim key := List.forall_mem_map.symm
    _ ↔ ∀ key ∈ right.map (·.1), claim key := forall_congr' fun key => imp_congr_left (same key)
    _ ↔ ∀ entry ∈ right, claim entry.1 := List.forall_mem_map

/-- What is found is the pair that prevails among those whose keys satisfy the
predicate. -/
theorem findKey?_ofList_eq_some_iff
    {p : String → Bool}
    {pairs : List (String × α)}
    {pair : String × α} :
    (ofList pairs).findKey? p = some pair ↔
      Prevails (pairs.filter fun other => p other.1) pair := by
  have sameKeys : ∀ key,
      key ∈ ((ofList pairs).filterKeys p).keys ↔
        key ∈ (pairs.filter fun other => p other.1).map (·.1) := by
    intro key
    rw [mem_keys_filterKeys, mem_keys_ofList]
    simp
  have sameLeast := forall_mem_iff_of_keys sameKeys (pair.1 ≤ ·)
  have sameLast : p pair.1 = true →
      (pairs.filter fun other => p other.1).filter (fun other => other.1 == pair.1) =
        pairs.filter fun other => other.1 == pair.1 := by
    intro satisfies
    rw [List.filter_filter]
    apply List.filter_congr
    intro other _
    by_cases same : other.1 = pair.1
    · simp [same, satisfies]
    · simp [same]
  rw [findKey?_eq_some_iff, sameLeast, mem_entries_filterKeys, mem_entries_ofList]
  constructor
  · rintro ⟨⟨last, satisfies⟩, first⟩
    exact ⟨first, (congrArg List.getLast? (sameLast satisfies)).trans last⟩
  · intro prevails
    have satisfies : p pair.1 = true := (List.mem_filter.mp prevails.mem).2
    exact ⟨⟨sameLast satisfies ▸ prevails.last, satisfies⟩, prevails.first⟩

/-- Of pairs whose keys satisfy the predicate the last one is found if they have one
key. -/
theorem findKey?_ofList_of_one_key
    {p : String → Bool}
    {pairs : List (String × α)}
    (one : ∀ left ∈ pairs.filter fun pair => p pair.1,
      ∀ right ∈ pairs.filter fun pair => p pair.1, left.1 = right.1) :
    (ofList pairs).findKey? p = (pairs.filter fun pair => p pair.1).getLast? := by
  apply Option.ext
  intro pair
  rw [findKey?_ofList_eq_some_iff, prevails_iff_of_one_key one]

/-- Nothing is found exactly if no key satisfies the predicate. -/
theorem findKey?_ofList_eq_none_iff
    {p : String → Bool}
    {pairs : List (String × α)} :
    (ofList pairs).findKey? p = none ↔ pairs.filter (fun other => p other.1) = [] := by
  have sameKeys : ∀ key, key ∈ (ofList pairs).entries.map (·.1) ↔ key ∈ pairs.map (·.1) :=
    fun _ => mem_keys_ofList
  have noKey := forall_mem_iff_of_keys sameKeys (¬p · = true)
  rw [findKey?, List.find?_eq_none, noKey, List.filter_eq_nil_iff]

end SortedMap
end RestQuery
