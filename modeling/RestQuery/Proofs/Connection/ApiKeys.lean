import Mathlib.Data.Set.Subsingleton
import RestQuery.Proofs.Http.Merging
import RestQuery.Proofs.Query.Parameters

/-!
# The API key of a connection

Settings keep a header under every spelling of its name that was set, and the API key
is looked up in any spelling. The spelling that comes first in the order of names is
found, whichever was set last. So the key that was set last is the one that is sent
as long as one spelling is used; with two of them an old key can hide a new one.
-/

namespace RestQuery
namespace Settings

open Headers

/-! ## Histories of settings -/

/-- A change of settings. -/
inductive Change
  | schema (schema : String)
  | header (name value : String)
  | param (key value : String)
  | apiKey (key : String)
  | bearer (token : String)
  deriving DecidableEq

/-- Settings after a change. -/
def change (settings : Settings) : Change → Settings
  | .schema schema => settings.withSchema schema
  | .header name value => settings.withHeader name value
  | .param key value => settings.withParam key value
  | .apiKey key => settings.withApiKey key
  | .bearer token => settings.withBearer token

/-- What some changes make of the settings that nobody has changed. -/
def ofChanges (changes : List Change) : Settings := changes.foldl change {}

/-- The header that a change sets, with its value. -/
def Change.header? : Change → Option (String × String)
  | schema _ => none
  | header name value => some (name, value)
  | param .. => none
  | apiKey key => some (Headers.apiKey, key)
  | bearer token => some (Headers.authorization, "Bearer " ++ token)

/-- The headers that set the API key, in any spelling, in the order in which they were
set. -/
def keyHeaders (changes : List Change) : List (String × String) :=
  (changes.filterMap Change.header?).filter fun entry => sameName entry.1 Headers.apiKey

/-- The key that was set last, in any spelling. -/
def lastKey? (changes : List Change) : Option String :=
  (keyHeaders changes).getLast?.map (·.2)

/-- A change sets its header, if it has one, and leaves all others as they are. -/
theorem headers_change (settings : Settings) (step : Change) :
    (settings.change step).headers =
      match step.header? with
      | some entry => settings.headers.insert entry.1 entry.2
      | none => settings.headers := by
  cases step <;> rfl

/-- Settings have the headers that were set, each with its last value. -/
theorem headers_ofChanges (changes : List Change) :
    (ofChanges changes).headers = SortedMap.ofList (changes.filterMap Change.header?) := by
  induction changes using List.reverseRecOn with
  | nil => rfl
  | append_singleton changes last inductionHypothesis =>
      have added : ofChanges (changes ++ [last]) = (ofChanges changes).change last :=
        List.foldl_append
      rw [added, headers_change, inductionHypothesis, List.filterMap_append]
      cases header : last.header? with
      | none => simp [header]
      | some entry => simp [header, SortedMap.ofList_append_singleton]

/-! ## The key that is sent -/

/-- Settings have a key exactly if one was set, and it is the one that prevails among
those that were set: the last one under the first spelling. -/
theorem apiKey?_ofChanges_eq_some_iff {changes : List Change} {key : String} :
    (ofChanges changes).apiKey? = some key ↔
      ∃ name, SortedMap.Prevails (keyHeaders changes) (name, key) := by
  rw [apiKey?, find?, headers_ofChanges, Option.map_eq_some_iff]
  simp only [SortedMap.findKey?_ofList_eq_some_iff]
  constructor
  · rintro ⟨⟨name, value⟩, prevails, rfl⟩
    exact ⟨name, prevails⟩
  · rintro ⟨name, prevails⟩
    exact ⟨(name, key), prevails, rfl⟩

theorem apiKey?_ofChanges_eq_none_iff {changes : List Change} :
    (ofChanges changes).apiKey? = none ↔ keyHeaders changes = [] := by
  rw [apiKey?, find?, headers_ofChanges, Option.map_eq_none_iff,
    SortedMap.findKey?_ofList_eq_none_iff, keyHeaders]

/-- The key that is sent is the one that was set last, if one was set. -/
def SendsLastKey (changes : List Change) : Prop :=
  (ofChanges changes).apiKey? = lastKey? changes

/-- The last key is sent exactly if the one that prevails has the same value. -/
theorem sendsLastKey_iff {changes : List Change} :
    SendsLastKey changes ↔
      ∀ prevailing last,
        SortedMap.Prevails (keyHeaders changes) prevailing →
          (keyHeaders changes).getLast? = some last →
            prevailing.2 = last.2 := by
  have ofPrevailing : ∀ prevailing, SortedMap.Prevails (keyHeaders changes) prevailing →
      (ofChanges changes).apiKey? = some prevailing.2 := by
    intro prevailing prevails
    exact apiKey?_ofChanges_eq_some_iff.mpr ⟨prevailing.1, prevails⟩
  unfold SendsLastKey lastKey?
  constructor
  · intro sends prevailing last prevails isLast
    rw [ofPrevailing prevailing prevails, isLast] at sends
    exact Option.some.inj sends
  · intro agree
    cases isLast : (keyHeaders changes).getLast? with
    | none =>
        have unset := List.getLast?_eq_none_iff.mp isLast
        exact apiKey?_ofChanges_eq_none_iff.mpr unset
    | some last =>
        cases found : (ofChanges changes).apiKey? with
        | none =>
            rw [apiKey?_ofChanges_eq_none_iff.mp found] at isLast
            cases isLast
        | some key =>
            obtain ⟨name, prevails⟩ := apiKey?_ofChanges_eq_some_iff.mp found
            exact congrArg some (agree _ last prevails isLast)

/-- If the key is set under one spelling, the last one is sent. -/
theorem sendsLastKey_of_one_spelling
    {changes : List Change}
    (one : ∀ left ∈ keyHeaders changes, ∀ right ∈ keyHeaders changes, left.1 = right.1) :
    SendsLastKey changes := by
  apply sendsLastKey_iff.mpr
  intro prevailing last prevails isLast
  rw [SortedMap.prevails_iff_of_one_key one, isLast] at prevails
  exact congrArg Prod.snd (Option.some.inj prevails).symm

/-- A key that is set under a spelling stays in front of one that is set later, under a
spelling further back in the order. -/
theorem not_sendsLastKey_of_lt
    {first second : String}
    (isFirst : sameName first Headers.apiKey = true)
    (isSecond : sameName second Headers.apiKey = true)
    (below : first < second) :
    ¬SendsLastKey [.header first "old", .header second "new"] := by
  have set : keyHeaders [.header first "old", .header second "new"] =
      [(first, "old"), (second, "new")] := by
    simp [keyHeaders, Change.header?, isFirst, isSecond]
  have prevails : SortedMap.Prevails [(first, "old"), (second, "new")] (first, "old") := by
    refine ⟨?_, ?_⟩
    · intro other member
      rcases List.mem_pair.mp member with rfl | rfl
      · exact String.le_refl first
      · exact String.not_lt.mp (String.lt_asymm below)
    · have differ : second ≠ first := (String.ne_of_lt below).symm
      simp [differ]
  rw [sendsLastKey_iff, set]
  intro agree
  have same : "old" = "new" := agree (first, "old") (second, "new") prevails rfl
  exact absurd same (by decide)

/-- Whatever keys are set in whatever order, the last one is sent exactly if at most
one of the spellings in use is one of the key. -/
theorem forall_sendsLastKey_iff (spellings : Set String) :
    (∀ changes,
      (∀ entry ∈ keyHeaders changes, entry.1 ∈ spellings) → SendsLastKey changes) ↔
        {name ∈ spellings | sameName name Headers.apiKey = true}.Subsingleton := by
  constructor
  · rintro sends left ⟨leftUsed, isLeft⟩ right ⟨rightUsed, isRight⟩
    have used : ∀ first second, first ∈ spellings → second ∈ spellings →
        ∀ entry ∈ keyHeaders [.header first "old", .header second "new"],
          entry.1 ∈ spellings := by
      intro first second firstUsed secondUsed entry member
      have isSet : entry ∈ [(first, "old"), (second, "new")] := List.mem_of_mem_filter member
      rcases List.mem_pair.mp isSet with rfl | rfl
      · exact firstUsed
      · exact secondUsed
    by_contra different
    by_cases below : left < right
    · exact not_sendsLastKey_of_lt isLeft isRight below (sends _ (used _ _ leftUsed rightUsed))
    · have above := SortedMap.lt_of_not_lt_of_ne below different
      exact not_sendsLastKey_of_lt isRight isLeft above (sends _ (used _ _ rightUsed leftUsed))
  · intro one changes used
    apply sendsLastKey_of_one_spelling
    intro left leftMember right rightMember
    have isKey : ∀ entry ∈ keyHeaders changes, sameName entry.1 Headers.apiKey = true :=
      fun entry member => (List.mem_filter.mp member).2
    exact one ⟨used left leftMember, isKey left leftMember⟩
      ⟨used right rightMember, isKey right rightMember⟩

/-- The API key of settings is the last one that was set under the first of its
spellings, and every request repeats it behind the parameters of the settings; without
a key there is none, and nothing is repeated. So it is the key that was set last exactly
if that one has the same value, and it is so in every history with some spellings exactly
if at most one of them is one of the key. -/
theorem apiKey?_prevails_and_sendsLastKey_iff
    (changes : List Change)
    (spellings : Set String) :
    ((ofChanges changes).apiKey? = none ↔ keyHeaders changes = []) ∧
      (∀ key,
        (ofChanges changes).apiKey? = some key ↔
          ∃ name, SortedMap.Prevails (keyHeaders changes) (name, key)) ∧
      (∀ query params,
        Query.params (ofChanges changes) query = .ok params →
          ∃ further,
            params =
              (ofChanges changes).params
                ++ ((ofChanges changes).apiKey?.map fun key => ⟨"apikey", key⟩).toList
                ++ further) ∧
      (SendsLastKey changes ↔
        ∀ prevailing last,
          SortedMap.Prevails (keyHeaders changes) prevailing →
            (keyHeaders changes).getLast? = some last →
              prevailing.2 = last.2) ∧
      ((∀ history,
        (∀ entry ∈ keyHeaders history, entry.1 ∈ spellings) → SendsLastKey history) ↔
          {name ∈ spellings | sameName name Headers.apiKey = true}.Subsingleton) := by
  refine ⟨apiKey?_ofChanges_eq_none_iff, fun key => apiKey?_ofChanges_eq_some_iff, ?_,
    sendsLastKey_iff, forall_sendsLastKey_iff spellings⟩
  intro query params written
  obtain ⟨filters, -, rfl⟩ := Query.params_eq_ok_iff.mp written
  simp only [Query.arrangedParams, List.append_assoc]
  exact ⟨_, rfl⟩

/-- A key that was set in capitals hides the one that is set later as the API key: the
old one is looked up, and repeated in requests. -/
theorem not_sendsLastKey_capitals :
    let changes := [Change.header "APIKEY" "old", .apiKey "new"]
    ¬SendsLastKey changes ∧
      lastKey? changes = some "new" ∧
      ∃ params,
        Query.empty.params (ofChanges changes) = .ok params ∧
          ∃ further, params = ⟨"apikey", "old"⟩ :: further := by
  intro changes
  obtain ⟨-, ofKey, ofParams, ofLast, -⟩ :=
    apiKey?_prevails_and_sendsLastKey_iff changes Set.univ
  have prevails : SortedMap.Prevails (keyHeaders changes) ("APIKEY", "old") :=
    ⟨by decide, by decide⟩
  obtain ⟨params, written⟩ : ∃ params,
      Query.empty.params (ofChanges changes) = .ok params := ⟨_, rfl⟩
  refine ⟨?_, by decide, params, written, ?_⟩
  · intro sends
    have same : "old" = "new" := ofLast.mp sends _ ("apikey", "new") prevails (by decide)
    exact absurd same (by decide)
  · obtain ⟨further, shape⟩ := ofParams _ params written
    rw [(ofKey "old").mpr ⟨"APIKEY", prevails⟩] at shape
    exact ⟨further, shape⟩

end Settings
end RestQuery
