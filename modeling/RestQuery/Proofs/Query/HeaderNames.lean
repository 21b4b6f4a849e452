import Mathlib.Data.Set.Function
import RestQuery.Proofs.SortedMap
import RestQuery.Query.Assembly

/-!
# The names of the headers of a request

The headers of a call and the name of the library are set with a look at the
spellings that are there already. The profile, the window and the type of a body
are not: they are set under the library's own spelling, beside whatever spelling
the settings have. So the names of a request stay apart exactly if no header of
the settings is another spelling of one of these, unless the call overrides it.
-/

namespace RestQuery

namespace Headers

/-- The names of headers. -/
def names (headers : Headers) : Set String := {name | name ∈ headers.keys}

/-- No two names denote the same header: different names differ beyond the case
of their letters. -/
def NamesApart (headers : Headers) : Prop := Set.InjOn foldName headers.names

theorem mem_names_insert
    {headers : Headers}
    {name value other : String} :
    other ∈ names (headers.insert name value) ↔ other = name ∨ other ∈ headers.names :=
  headers.mem_keys_insert name value other

theorem mem_names_override
    {headers : Headers}
    {name value other : String} :
    other ∈ (headers.override name value).names ↔
      other = name ∨ other ∈ headers.names ∧ foldName other ≠ foldName name := by
  simp [override, names, sameName]

/-! ## Setting headers over others -/

/-- The names of headers that none of some others spells differently. -/
def namesBeside (headers : Headers) (others : List String) : Set String :=
  {name | name ∈ headers.names ∧ ∀ other ∈ others, foldName name ≠ foldName other}

/-- Setting a header over others makes no name double. -/
theorem injOn_namesBeside_override
    (headers : Headers)
    (name value : String)
    (others : List String) :
    Set.InjOn foldName ((headers.override name value).namesBeside others) ↔
      Set.InjOn foldName (headers.namesBeside (name :: others)) := by
  constructor
  · intro apart
    refine apart.mono ?_
    rintro kept ⟨member, beside⟩
    obtain ⟨besideName, besideOthers⟩ := List.forall_mem_cons.mp beside
    exact ⟨mem_names_override.mpr (.inr ⟨member, besideName⟩), besideOthers⟩
  · rintro apart left ⟨leftMember, leftBeside⟩ right ⟨rightMember, rightBeside⟩ same
    rcases mem_names_override.mp leftMember with rfl | ⟨leftOld, leftOther⟩
    · rcases mem_names_override.mp rightMember with rfl | ⟨-, rightOther⟩
      · rfl
      · exact absurd same.symm rightOther
    · rcases mem_names_override.mp rightMember with rfl | ⟨rightOld, rightOther⟩
      · exact absurd same leftOther
      · exact apart ⟨leftOld, List.forall_mem_cons.mpr ⟨leftOther, leftBeside⟩⟩
          ⟨rightOld, List.forall_mem_cons.mpr ⟨rightOther, rightBeside⟩⟩ same

/-- Merged headers have their names apart exactly if those that are not overridden
have. -/
theorem namesApart_merge_iff (base overrides : Headers) :
    (base.merge overrides).NamesApart ↔
      Set.InjOn foldName (base.namesBeside overrides.keys) := by
  rw [merge, SortedMap.keys]
  induction overrides.entries generalizing base with
  | nil => simp [NamesApart, namesBeside]
  | cons entry entries inductionHypothesis =>
      rw [List.foldl_cons, inductionHypothesis, injOn_namesBeside_override, List.map_cons]

/-! ## The library's own names -/

/-- A header is found under any spelling of its name. -/
theorem find?_eq_none_iff {headers : Headers} {name : String} :
    headers.find? name = none ↔ ∀ other ∈ headers.names, foldName other ≠ foldName name := by
  simp [find?, SortedMap.findKey?, names, SortedMap.keys, sameName]

/-- The names that a request sets as they are. -/
def ownNames : List String :=
  [acceptProfile, contentProfile, rangeUnit, range, contentType]

/-- The library's own names denote different headers, and none of them denotes the
one in which the library names itself. -/
theorem injOn_ownNames : Set.InjOn foldName {name | name ∈ clientInfo :: ownNames} := by
  show ∀ left ∈ clientInfo :: ownNames, ∀ right ∈ clientInfo :: ownNames,
    foldName left = foldName right → left = right
  decide

end Headers

namespace Query

open Headers

/-- The names of the headers that a request sets whatever spelling of them the
settings have. -/
def plainNames
    (settings : Settings)
    (method : Method)
    (query : Query)
    (hasBody : Bool) :
    List String :=
  (if settings.schema.isEmpty then [] else [profileName method])
    ++ (if query.window.isSome then [Headers.rangeUnit, Headers.range] else [])
    ++ if hasBody then [Headers.contentType] else []

theorem mem_plainNames_iff
    {settings : Settings}
    {method : Method}
    {query : Query}
    {hasBody : Bool}
    {name : String} :
    name ∈ plainNames settings method query hasBody ↔
      (¬settings.schema.isEmpty ∧ name = profileName method) ∨
        (query.window.isSome ∧ (name = Headers.rangeUnit ∨ name = Headers.range)) ∨
          (hasBody ∧ name = Headers.contentType) := by
  cases hasBody <;> simp [plainNames]

theorem mem_ownNames_of_mem_plainNames
    {settings : Settings}
    {method : Method}
    {query : Query}
    {hasBody : Bool}
    {name : String}
    (member : name ∈ plainNames settings method query hasBody) :
    name ∈ ownNames := by
  rcases mem_plainNames_iff.mp member with ⟨-, rfl⟩ | ⟨-, rfl | rfl⟩ | ⟨-, rfl⟩
  · cases method <;> simp [profileName, Method.isRead, ownNames]
  · simp [ownNames]
  · simp [ownNames]
  · simp [ownNames]

/-- The library names itself unless it is named already. -/
theorem mem_names_withClientInfo
    {headers : Headers}
    {name : String} :
    name ∈ (withClientInfo headers).names ↔
      name ∈ headers.names ∨
        name = Headers.clientInfo ∧ headers.find? Headers.clientInfo = none := by
  rw [withClientInfo]
  cases headers.find? Headers.clientInfo with
  | none => simp [mem_names_insert, or_comm]
  | some value => simp

theorem mem_names_withProfile
    {method : Method}
    {schema : String}
    {headers : Headers}
    {name : String} :
    name ∈ (withProfile method schema headers).names ↔
      name ∈ headers.names ∨ ¬schema.isEmpty ∧ name = profileName method := by
  rw [withProfile]
  cases schema.isEmpty with
  | true => simp
  | false => simp [mem_names_insert, or_comm]

theorem mem_names_withWindow
    {window : Option RowWindow}
    {headers : Headers}
    {name : String} :
    name ∈ (withWindow window headers).names ↔
      name ∈ headers.names ∨
        window.isSome ∧ (name = Headers.rangeUnit ∨ name = Headers.range) := by
  cases window with
  | none => simp [withWindow]
  | some rows =>
      simp only [withWindow, mem_names_insert, Option.isSome_some, true_and]
      grind

theorem mem_names_withContentType
    {hasBody : Bool}
    {headers : Headers}
    {name : String} :
    name ∈ (withContentType hasBody headers).names ↔
      name ∈ headers.names ∨ hasBody ∧ name = Headers.contentType := by
  cases hasBody with
  | false => simp [withContentType]
  | true => simp [withContentType, mem_names_insert, or_comm]

/-- The headers of a request but for those of the call. -/
def baseHeaders
    (settings : Settings)
    (method : Method)
    (query : Query)
    (hasBody : Bool) :
    Headers :=
  withContentType hasBody
    (withWindow query.window
      (withProfile method settings.schema (withClientInfo settings.headers)))

/-- Before the headers of the call there are those of the settings, the name of
the library, and those that are set as they are. -/
theorem mem_names_baseHeaders
    {settings : Settings}
    {method : Method}
    {query : Query}
    {hasBody : Bool}
    {name : String} :
    name ∈ (baseHeaders settings method query hasBody).names ↔
      name ∈ (withClientInfo settings.headers).names ∨
        name ∈ plainNames settings method query hasBody := by
  rw [baseHeaders, mem_names_withContentType, mem_names_withWindow, mem_names_withProfile,
    mem_plainNames_iff, or_assoc, or_assoc]

theorem namesApart_withClientInfo
    {headers : Headers}
    (apart : headers.NamesApart) :
    (withClientInfo headers).NamesApart := by
  intro left leftMember right rightMember same
  rcases mem_names_withClientInfo.mp leftMember with leftOld | ⟨rfl, missing⟩
  · rcases mem_names_withClientInfo.mp rightMember with rightOld | ⟨rfl, missing⟩
    · exact apart leftOld rightOld same
    · exact absurd same (find?_eq_none_iff.mp missing left leftOld)
  · rcases mem_names_withClientInfo.mp rightMember with rightOld | ⟨rfl, -⟩
    · exact absurd same.symm (find?_eq_none_iff.mp missing right rightOld)
    · rfl

/-- A name that is set as it is meets no other spelling of it: the settings have
none, or the call overrides it. -/
def IsUnrivalled (settings : Settings) (overrides : Headers) (own : String) : Prop :=
  (∀ name ∈ settings.headers.names, foldName name = foldName own → name = own) ∨
    ∃ name ∈ overrides.names, foldName own = foldName name

/-- Unless it is overridden, such a name is the one spelling of its header. -/
theorem IsUnrivalled.eq
    {settings : Settings}
    {overrides : Headers}
    {own name : String}
    (unrivalled : IsUnrivalled settings overrides own)
    (isOwn : own ∈ ownNames)
    (beside : ∀ other ∈ overrides.keys, foldName own ≠ foldName other)
    (isSet : name ∈ (withClientInfo settings.headers).names)
    (same : foldName name = foldName own) :
    name = own := by
  rcases mem_names_withClientInfo.mp isSet with inSettings | ⟨rfl, -⟩
  · rcases unrivalled with onlySpelling | ⟨other, member, spelled⟩
    · exact onlySpelling name inSettings same
    · exact absurd spelled (beside other member)
  · exact injOn_ownNames List.mem_cons_self (List.mem_cons_of_mem _ isOwn) same

/-- If the settings have their names apart, a request has its names apart exactly if
the library finds no other spelling of a name that it sets as it is, except where
the call overrides it. The name of the library and the headers of the call never
stand beside another spelling. -/
theorem namesApart_headers_iff
    {settings : Settings}
    (apart : settings.headers.NamesApart)
    (method : Method)
    (query : Query)
    (hasBody : Bool)
    (overrides : Headers) :
    (query.headers settings method hasBody overrides).NamesApart ↔
      ∀ own ∈ plainNames settings method query hasBody, IsUnrivalled settings overrides own := by
  show ((baseHeaders settings method query hasBody).merge overrides).NamesApart ↔ _
  rw [namesApart_merge_iff]
  constructor
  · intro injective own isOwn
    by_cases overridden : ∃ name ∈ overrides.names, foldName own = foldName name
    · exact .inr overridden
    · refine .inl fun name inSettings same => ?_
      have besideOwn : ∀ other ∈ overrides.keys, foldName own ≠ foldName other :=
        fun other member spelled => overridden ⟨other, member, spelled⟩
      have besideName : ∀ other ∈ overrides.keys, foldName name ≠ foldName other := by
        rwa [same]
      have isSet := mem_names_withClientInfo.mpr (.inl inSettings)
      exact injective ⟨mem_names_baseHeaders.mpr (.inl isSet), besideName⟩
        ⟨mem_names_baseHeaders.mpr (.inr isOwn), besideOwn⟩ same
  · rintro unrivalled left ⟨leftMember, besideLeft⟩ right ⟨rightMember, besideRight⟩ same
    -- a name is set by the settings and the library's name, or set as it is
    rcases mem_names_baseHeaders.mp leftMember with leftSet | leftOwn
    · rcases mem_names_baseHeaders.mp rightMember with rightSet | rightOwn
      · exact namesApart_withClientInfo apart leftSet rightSet same
      · exact (unrivalled right rightOwn).eq (mem_ownNames_of_mem_plainNames rightOwn)
          besideRight leftSet same
    · have isLeft := mem_ownNames_of_mem_plainNames leftOwn
      rcases mem_names_baseHeaders.mp rightMember with rightSet | rightOwn
      · exact ((unrivalled left leftOwn).eq isLeft besideLeft rightSet same.symm).symm
      · have isRight := mem_ownNames_of_mem_plainNames rightOwn
        exact injOn_ownNames (List.mem_cons_of_mem _ isLeft) (List.mem_cons_of_mem _ isRight) same

/-- A configured `content-type` stays beside the `Content-Type` of a body, so that
the type of the body is sent twice; without a body it is sent once. -/
theorem not_namesApart_headers_contentType :
    let settings : Settings := ({} : Settings).withHeader "content-type" "text/csv"
    settings.headers.NamesApart ∧
      ¬(empty.headers settings .post true .empty).NamesApart ∧
      (empty.headers settings .post false .empty).NamesApart := by
  intro settings
  have apart : settings.headers.NamesApart := by
    show ∀ left ∈ settings.headers.keys, ∀ right ∈ settings.headers.keys,
      Headers.foldName left = Headers.foldName right → left = right
    decide
  refine ⟨apart, fun bodyApart => ?_, ?_⟩
  · rcases (namesApart_headers_iff apart .post empty true .empty).mp bodyApart
        Headers.contentType (by decide) with onlySpelling | ⟨name, member, -⟩
    · have same := onlySpelling "content-type" List.mem_cons_self (by decide)
      exact absurd same (by decide)
    · cases member
  · refine (namesApart_headers_iff apart .post empty false .empty).mpr fun own isOwn => ?_
    refine .inl fun name inSettings same => ?_
    rcases List.mem_singleton.mp isOwn with rfl
    rcases List.mem_singleton.mp inSettings with rfl
    exact absurd same (by decide)

end Query
end RestQuery
