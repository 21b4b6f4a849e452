import Mathlib.Data.List.Forall2
import RestQuery.Http.Headers
import RestQuery.Proofs.SortedMap

/-!
# Merging headers

Two names are the same header if they agree character by character, but for the case of
ASCII letters. Merging sets the headers of a call one after the other, and each one drops
what is there under another spelling of its name. So of the spellings of a header that the
call has the last one stays, alone, and a header that the call does not have stays as it
was, in all of its spellings.
-/

namespace RestQuery
namespace Headers

/-! ## Names -/

/-- The first character is a capital ASCII letter, and the second one its small letter. -/
def IsCapitalOf (capital small : Char) : Prop :=
  'A' ≤ capital ∧ capital ≤ 'Z' ∧ small.toNat = capital.toNat + 32

/-- The characters are the same, but for the case of an ASCII letter. -/
def SameButForCase (c d : Char) : Prop := c = d ∨ IsCapitalOf c d ∨ IsCapitalOf d c

/-- Capital ASCII letters are moved to the small ones, all other characters are kept. -/
theorem toNat_toLower (c : Char) :
    c.toLower.toNat = if 'A' ≤ c ∧ c ≤ 'Z' then c.toNat + 32 else c.toNat := by
  unfold Char.toLower
  by_cases capital : 'A' ≤ c ∧ c ≤ 'Z'
  · have small : c.val.toNat ≤ 90 := capital.2
    have moved : (c.val + 32).toNat = c.val.toNat + 32 := by
      rw [UInt32.toNat_add]
      exact Nat.mod_eq_of_lt (show c.val.toNat + 32 < 2 ^ 32 by omega)
    rw [if_pos capital]
    exact (congrArg Char.toNat (dif_pos capital)).trans moved
  · rw [if_neg capital]
    exact congrArg Char.toNat (dif_neg capital)

theorem toLower_eq_toLower_iff {c d : Char} : c.toLower = d.toLower ↔ SameButForCase c d := by
  have le_iff (c d : Char) : c ≤ d ↔ c.toNat ≤ d.toNat := Iff.rfl
  have first : 'A'.toNat = 65 := rfl
  have last : 'Z'.toNat = 90 := rfl
  simp only [SameButForCase, IsCapitalOf, ← Char.toNat_inj, toNat_toLower, le_iff]
  split <;> split <;> omega

theorem toLower_toLower (c : Char) : c.toLower.toLower = c.toLower := by
  refine toLower_eq_toLower_iff.mpr ?_
  by_cases capital : 'A' ≤ c ∧ c ≤ 'Z'
  · have moved := toNat_toLower c
    rw [if_pos capital] at moved
    exact .inr (.inr ⟨capital.1, capital.2, moved⟩)
  · have kept := toNat_toLower c
    rw [if_neg capital] at kept
    exact .inl (Char.toNat_inj.mp kept)

theorem sameName_iff {left right : String} :
    sameName left right = true ↔ foldName left = foldName right := by
  rw [sameName, beq_iff_eq]

/-- Names are the same header if they are as long and have the same characters, but for
the case of ASCII letters. -/
theorem sameName_iff_forall₂ {left right : String} :
    sameName left right = true ↔ List.Forall₂ SameButForCase left.toList right.toList := by
  rw [sameName_iff, foldName, foldName, String.ofList_inj, ← List.forall₂_eq_eq_eq,
    List.forall₂_map_left_iff, List.forall₂_map_right_iff]
  simp only [toLower_eq_toLower_iff]

/-! ## Spellings -/

/-- The entries of a header, in all spellings of its name. -/
def spelled (headers : Headers) (name : String) : List (String × String) :=
  headers.entries.filter fun entry => sameName entry.1 name

theorem mem_spelled_iff
    {headers : Headers}
    {name : String}
    {entry : String × String} :
    entry ∈ headers.spelled name ↔
      entry ∈ headers.entries ∧ foldName entry.1 = foldName name := by
  rw [spelled, List.mem_filter, sameName_iff]

/-- Headers that agree on every name, in all of its spellings, are the same. -/
theorem ext_spelled
    {left right : Headers}
    (same : ∀ name, left.spelled name = right.spelled name) :
    left = right := by
  apply SortedMap.ext_mem
  intro entry
  have own := congrArg (entry ∈ ·) (same entry.1)
  simpa only [mem_spelled_iff, and_true, eq_iff_iff] using own

/-- An entry is the last spelling of a header, in the order of names. -/
structure IsLastSpelling
    (headers : Headers)
    (name : String)
    (entry : String × String) : Prop where
  member : entry ∈ headers.spelled name
  last : ∀ other ∈ headers.spelled name, other.1 ≤ entry.1

/-- The entries of a header are listed in the order of names. -/
theorem isLastSpelling_of_getLast?
    {headers : Headers}
    {name : String}
    {entry : String × String}
    (found : (headers.spelled name).getLast? = some entry) :
    headers.IsLastSpelling name entry := by
  obtain ⟨before, shape⟩ := List.getLast?_eq_some_iff.mp found
  refine ⟨List.mem_of_getLast? found, ?_⟩
  intro other member
  have ordered : (headers.spelled name).Pairwise fun left right => left.1 < right.1 :=
    headers.ascending.filter _
  rw [shape] at member ordered
  rcases List.mem_append.mp member with earlier | isEntry
  · have below := (List.pairwise_append.mp ordered).2.2 other earlier entry
      List.mem_cons_self
    exact String.not_lt.mp (String.lt_asymm below)
  · rcases List.mem_singleton.mp isEntry with rfl
    exact String.le_refl _

/-- A header alone is found under its name. -/
theorem spelled_insert_empty (name value : String) :
    spelled (SortedMap.empty.insert name value) name = [(name, value)] :=
  List.filter_cons_of_pos (sameName_iff.mpr rfl)

/-- Inserting a header leaves all others as they are. -/
theorem spelled_insert_of_ne
    (headers : Headers)
    {name other : String}
    (value : String)
    (different : foldName name ≠ foldName other) :
    spelled (headers.insert name value) other = headers.spelled other := by
  have kept : (headers.insert name value).filterKeys (fun key => sameName key other) =
      headers.filterKeys fun key => sameName key other := by
    apply SortedMap.ext_mem
    intro entry
    rw [SortedMap.mem_entries_filterKeys, SortedMap.mem_entries_filterKeys, sameName_iff,
      SortedMap.mem_entries_insert]
    constructor
    · rintro ⟨rfl | ⟨isOld, -⟩, isSame⟩
      · exact absurd isSame different
      · exact ⟨isOld, isSame⟩
    · rintro ⟨isOld, isSame⟩
      refine ⟨.inr ⟨isOld, ?_⟩, isSame⟩
      intro isName
      exact different (isName ▸ isSame)
  exact congrArg SortedMap.entries kept

/-! ## Setting headers over others -/

theorem mem_entries_override
    {headers : Headers}
    {name value : String}
    {entry : String × String} :
    entry ∈ (headers.override name value).entries ↔
      entry = (name, value) ∨
        entry ∈ headers.entries ∧ foldName entry.1 ≠ foldName name := by
  have apart : foldName entry.1 ≠ foldName name → entry.1 ≠ name := by
    intro different same
    exact different (congrArg foldName same)
  rw [override, SortedMap.mem_entries_insert, SortedMap.mem_entries_filterKeys, sameName,
    and_assoc]
  simp only [Bool.not_eq_true', beq_eq_false_iff_ne]
  rw [and_iff_left_of_imp apart]

/-- A header that is set has one spelling, the one under which it is set. -/
theorem spelled_override_of_same
    (headers : Headers)
    {name other : String}
    (value : String)
    (same : foldName name = foldName other) :
    (headers.override name value).spelled other = [(name, value)] := by
  have alone : (headers.override name value).filterKeys (fun key => sameName key other) =
      SortedMap.empty.insert name value := by
    apply SortedMap.ext_mem
    intro entry
    rw [SortedMap.mem_entries_filterKeys, sameName_iff, mem_entries_override,
      SortedMap.mem_entries_insert, ← same]
    constructor
    · rintro ⟨isNew | ⟨-, different⟩, isSame⟩
      · exact .inl isNew
      · exact absurd isSame different
    · rintro (rfl | ⟨isOld, -⟩)
      · exact ⟨.inl rfl, rfl⟩
      · cases isOld
  exact congrArg SortedMap.entries alone

/-- Other headers keep all of their spellings. -/
theorem spelled_override_of_ne
    (headers : Headers)
    {name other : String}
    (value : String)
    (different : foldName name ≠ foldName other) :
    (headers.override name value).spelled other = headers.spelled other := by
  rw [override, spelled_insert_of_ne _ value different, spelled, spelled,
    SortedMap.filterKeys, List.filter_filter]
  apply List.filter_congr
  intro entry _
  by_cases same : foldName entry.1 = foldName other
  · have beside : foldName entry.1 ≠ foldName name := same.trans_ne different.symm
    simp [sameName, same, same ▸ beside]
  · simp [sameName, same]

/-- Setting some entries one after the other leaves the last one of each header, and
what was there of all other headers. -/
theorem spelled_foldl_override
    (base : Headers)
    (entries : List (String × String))
    (name : String) :
    (entries.foldl (fun headers entry => headers.override entry.1 entry.2) base).spelled
        name =
      match (entries.filter fun entry => sameName entry.1 name).getLast? with
      | some last => [last]
      | none => base.spelled name := by
  induction entries generalizing base with
  | nil => rfl
  | cons entry rest inductionHypothesis =>
      rw [List.foldl_cons, inductionHypothesis, List.filter_cons]
      by_cases same : foldName entry.1 = foldName name
      · rw [if_pos (sameName_iff.mpr same), List.getLast?_cons,
          spelled_override_of_same base entry.2 same]
        cases (rest.filter fun other => sameName other.1 name).getLast? with
        | none => rfl
        | some last => rfl
      · rw [if_neg (mt sameName_iff.mp same), spelled_override_of_ne base entry.2 same]

/-- Of the spellings of a header that the overriding headers have the last one stays,
alone; a header that they do not have stays as it was. -/
theorem spelled_merge (base overrides : Headers) (name : String) :
    (overrides.spelled name = [] ∧
        (base.merge overrides).spelled name = base.spelled name) ∨
      ∃ last,
        overrides.IsLastSpelling name last ∧ (base.merge overrides).spelled name = [last] := by
  have merged := spelled_foldl_override base overrides.entries name
  cases found : (overrides.spelled name).getLast? with
  | none =>
      have absent := List.getLast?_eq_none_iff.mp found
      rw [spelled] at found
      rw [found] at merged
      exact .inl ⟨absent, merged⟩
  | some last =>
      have isLast := isLastSpelling_of_getLast? found
      rw [spelled] at found
      rw [found] at merged
      exact .inr ⟨last, isLast, merged⟩

/-- A header that the overriding headers have once is what they say it is. -/
theorem spelled_merge_of_eq_singleton
    (base : Headers)
    {overrides : Headers}
    {name : String}
    {entry : String × String}
    (once : overrides.spelled name = [entry]) :
    (base.merge overrides).spelled name = [entry] := by
  rcases spelled_merge base overrides name with ⟨absent, -⟩ | ⟨last, isLast, merged⟩
  · rw [once] at absent
    cases absent
  · have member := isLast.member
    rw [once] at member
    rw [merged, List.mem_singleton.mp member]

/-- Merging the same headers once more changes nothing. -/
theorem merge_merge (base overrides : Headers) :
    (base.merge overrides).merge overrides = base.merge overrides := by
  apply ext_spelled
  intro name
  rw [merge, spelled_foldl_override, merge, spelled_foldl_override]
  cases (overrides.entries.filter fun entry => sameName entry.1 name).getLast? with
  | none => rfl
  | some last => rfl

end Headers
end RestQuery
