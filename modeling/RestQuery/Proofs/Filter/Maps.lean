import RestQuery.Proofs.Filter.Operands
import RestQuery.Proofs.Json.Documents
import RestQuery.Proofs.Json.Reals
import RestQuery.Proofs.SortedMap

/-!
# Maps as operands

A map is written as a document and is read value by value. The document of any
map is taken back by the reader of documents, but the map is read only if each
value of it is: what is no number is written as null, and null is no value of a
map.
-/

namespace RestQuery

open Text (Closed)

namespace Filter

open Sequence

/-! ## Inside a group -/

/-- A character of a document leaves the quotes around it open. -/
theorem loops_inside_charChars (c : Char) (depth : Int) :
    (Text.Scan.inside depth).Loops (Json.charChars c) := by
  unfold Json.charChars
  split
  · exact Text.loops_inside_escape _ depth
  · next notEscaped =>
      split
      · next control =>
          have plain : ∀ n < 16, Json.hexDigit n ≠ '\\' ∧ Json.hexDigit n ≠ '"' := by decide
          have high := plain (c.toNat / 16) (by omega)
          have low := plain (c.toNat % 16) (by omega)
          have zero := Text.loops_inside_of_ne (c := '0') (by decide) (by decide) depth
          have code := (Text.loops_inside_of_ne high.1 high.2 depth).append
            (Text.loops_inside_of_ne low.1 low.2 depth)
          exact (Text.loops_inside_escape 'u' depth).append (zero.append (zero.append code))
      · refine Text.loops_inside_of_ne ?_ ?_ depth <;> rintro rfl <;> cases notEscaped

/-- A text of a document closes what it opens. -/
theorem closed_jsonTextChars (least : Int) (value : String) :
    Closed least (Json.textChars value) :=
  .enquote fun depth => .flatMap fun c _ => loops_inside_charChars c depth

/-- An exact value of a document closes what it opens. -/
theorem closed_toJson
    {value : Scalar}
    (exact : value.IsExact) :
    Closed 0 value.toJson.chars := by
  cases value with
  | text value => exact closed_jsonTextChars 0 value
  | int value => exact closed_intChars value.toInt
  | float value => exact exact.elim
  | bool value => cases value <;> exact .of_all (by decide)

theorem membersChars_eq_map (members : List (String × Json)) :
    Json.membersChars members =
      members.map fun member => Json.textChars member.1 ++ ':' :: member.2.chars := by
  induction members with
  | nil => rfl
  | cons member rest inductionHypothesis =>
      rw [Json.membersChars, inductionHypothesis, List.map_cons]

/-- The values of a map are written in its document one by one. -/
theorem chars_mapJson (values : SortedMap Scalar) :
    (mapJson values).chars =
      '\x7b' :: Text.joinWith ','
        (values.entries.map fun entry => Json.textChars entry.1 ++ ':' :: entry.2.toJson.chars) ++
          ['\x7d'] := by
  rw [mapJson, SortedMap.mapValues, Json.chars, membersChars_eq_map, List.map_map]
  rfl

/-- A map of exact values closes what it opens. -/
theorem closed_mapJson
    {values : SortedMap Scalar}
    (exact : ∀ entry ∈ values.entries, entry.2.IsExact) :
    Closed 0 (mapJson values).chars := by
  rw [chars_mapJson]
  refine .enclose rfl rfl (.joinWith fun part member => ?_)
  obtain ⟨entry, inMap, rfl⟩ := List.mem_map.mp member
  have valueClosed : Closed 1 entry.2.toJson.chars :=
    (closed_toJson (exact entry inMap)).mono (by decide)
  exact .append (closed_jsonTextChars 1 entry.1) (.cons rfl (by decide) valueClosed)

/-! ## Values in documents -/

/-- The document of every value is legible; that of a number which is none is null. -/
theorem legible_toJson (value : Scalar) : value.toJson.Legible := by
  cases value with
  | text value => trivial
  | int value => exact Json.isLiteral_intChars value.toInt
  | bool value => trivial
  | float value =>
      cases value with
      | nan => trivial
      | infinite negative => trivial
      | finite negative units representable =>
          exact Json.isLiteral_signedChars representable negative

theorem depth_toJson (value : Scalar) : value.toJson.depth = 0 := by
  cases value with
  | text value => rfl
  | int value => rfl
  | float value => cases value <;> rfl
  | bool value => rfl

/-- A value that is read from its document has a document in its one form. -/
theorem exists_normal?_toJson
    {value found : Scalar}
    (read : scalarOfJson? value.toJson = some found) :
    ∃ json, value.toJson.normal? = some json := by
  have normal_number {literal : List Char} (read : scalarOfJson? (.number literal) = some found) :
      ∃ json, Json.normal? (.number literal) = some json := by
    cases quantity : Json.quantity? literal with
    | none =>
        simp [scalarOfJson?, Json.asInt64?, Json.asWhole?, Json.asBinary64?, quantity] at read
    | some found => exact ⟨_, by rw [Json.normal?, quantity]; rfl⟩
  cases value with
  | text value => exact ⟨_, rfl⟩
  | int value => exact normal_number read
  | bool value => exact ⟨_, rfl⟩
  | float value =>
      cases value with
      | nan => cases read
      | infinite negative => cases read
      | finite negative units representable => exact normal_number read

/-- An exact value is read from its document. -/
theorem scalarOfJson?_toJson
    {value : Scalar}
    (exact : value.IsExact) :
    scalarOfJson? value.toJson = some value := by
  cases value with
  | text value => rfl
  | int value =>
      have found := Json.asInt64?_ofInt value
      rw [Json.ofInt] at found
      rw [Scalar.toJson, Json.ofInt, scalarOfJson?, found]
  | float value => exact exact.elim
  | bool value => rfl

/-! ## Reading maps -/

/-- The members that the entries of a map become. -/
def membersOf (entries : List (String × Scalar)) : List (String × Json) :=
  entries.map fun entry => (entry.1, entry.2.toJson)

theorem legibleMembers_membersOf (entries : List (String × Scalar)) :
    Json.LegibleMembers (membersOf entries) := by
  induction entries with
  | nil => trivial
  | cons entry rest inductionHypothesis => exact ⟨legible_toJson entry.2, inductionHypothesis⟩

theorem membersDepth_membersOf (entries : List (String × Scalar)) :
    Json.membersDepth (membersOf entries) = 0 := by
  induction entries with
  | nil => rfl
  | cons entry rest inductionHypothesis =>
      rw [membersOf, List.map_cons, Json.membersDepth, depth_toJson, Nat.zero_max]
      exact inductionHypothesis

section Members

variable {reread : Scalar → Scalar} {entries : List (String × Scalar)}

theorem exists_normalMembers?_membersOf
    (each : ∀ entry ∈ entries, scalarOfJson? entry.2.toJson = some (reread entry.2)) :
    ∃ members, Json.normalMembers? (membersOf entries) = some members := by
  induction entries with
  | nil => exact ⟨[], rfl⟩
  | cons entry rest inductionHypothesis =>
      obtain ⟨first, others⟩ := List.forall_mem_cons.mp each
      obtain ⟨json, normal⟩ := exists_normal?_toJson first
      obtain ⟨members, further⟩ := inductionHypothesis others
      refine ⟨(entry.1, json) :: members, ?_⟩
      rw [membersOf, List.map_cons, Json.normalMembers?, normal, ← membersOf, further]
      rfl

theorem readMapValues_membersOf
    (column s : List Char)
    (each : ∀ entry ∈ entries, scalarOfJson? entry.2.toJson = some (reread entry.2)) :
    readMapValues column s (membersOf entries) =
      .ok (entries.map fun entry => (entry.1, reread entry.2)) := by
  induction entries with
  | nil => rfl
  | cons entry rest inductionHypothesis =>
      obtain ⟨first, others⟩ := List.forall_mem_cons.mp each
      rw [membersOf, List.map_cons, readMapValues, first, ← membersOf,
        inductionHypothesis others]
      rfl

end Members

theorem eq_some_of_orFail
    {α : Type}
    {error : Error}
    {found? : Option α}
    {found : α}
    (isFound : orFail error found? = .ok found) :
    found? = some found := by
  cases found? with
  | none => cases isFound
  | some other =>
      cases isFound
      rfl

theorem scalarOfJson?_of_readMapValues
    {column s : List Char}
    {entries found : List (String × Scalar)}
    (isRead : readMapValues column s (membersOf entries) = .ok found) :
    ∀ entry ∈ entries, ∃ value, scalarOfJson? entry.2.toJson = some value := by
  induction entries generalizing found with
  | nil => simp
  | cons entry rest inductionHypothesis =>
      obtain ⟨value, readFirst, isRead⟩ := bind_eq_ok_iff.mp isRead
      obtain ⟨values, readOthers, -⟩ := bind_eq_ok_iff.mp isRead
      exact List.forall_mem_cons.mpr
        ⟨⟨value, eq_some_of_orFail readFirst⟩, inductionHypothesis readOthers⟩

/-- The document of every map can be read as a document. -/
theorem read?_chars_mapJson (values : SortedMap Scalar) :
    Json.read? (mapJson values).chars = some (mapJson values) :=
  Json.read?_chars (legibleMembers_membersOf values.entries)

/-- The document of a map has its members sorted already. -/
theorem sortedMembers?_mapJson
    {values : SortedMap Scalar}
    {json : Json}
    (readable : (mapJson values).any? = some json) :
    sortedMembers? (mapJson values) = some (membersOf values.entries) := by
  have shape : mapJson values = .object (membersOf values.entries) := rfl
  rw [shape] at readable ⊢
  simp only [sortedMembers?, readable]
  exact congrArg (some ·.entries) (SortedMap.ofList_entries (values.mapValues Scalar.toJson))

/-- A map of values that are read from their documents is read value by value,
whatever its keys are. -/
theorem readMap_mapJson_mapValues
    (column : List Char)
    {values : SortedMap Scalar}
    {reread : Scalar → Scalar}
    (each : ∀ entry ∈ values.entries, scalarOfJson? entry.2.toJson = some (reread entry.2)) :
    readMap column (mapJson values).chars = .ok (.map (values.mapValues reread)) := by
  have shallow : (mapJson values).depth ≤ Json.depthBound := by
    have flat : (mapJson values).depth = 0 + 1 :=
      congrArg (· + 1) (membersDepth_membersOf values.entries)
    rw [flat]
    decide
  obtain ⟨members, normal⟩ := exists_normalMembers?_membersOf each
  have readable : (mapJson values).any? = some (.object (SortedMap.ofList members).entries) := by
    rw [Json.any?, if_pos shallow]
    exact congrArg (Option.map _) normal
  have read : readMapValues column (mapJson values).chars (membersOf values.entries) =
      .ok (values.mapValues reread).entries :=
    readMapValues_membersOf column _ each
  rw [readMap, read?_chars_mapJson, Option.bind_some, sortedMembers?_mapJson readable]
  simp only [orFail, bind, Except.bind, read, SortedMap.ofList_entries]
  rfl

/-- A map of values that are read as themselves is read back. -/
theorem readMap_mapJson
    (column : List Char)
    {values : SortedMap Scalar}
    (each : ∀ entry ∈ values.entries, scalarOfJson? entry.2.toJson = some entry.2) :
    readMap column (mapJson values).chars = .ok (.map values) := by
  have same : values.mapValues id = values := SortedMap.ext_entries (List.map_id values.entries)
  have read : readMap column (mapJson values).chars = .ok (.map (values.mapValues id)) :=
    readMap_mapJson_mapValues column each
  rwa [same] at read

/-- A map is read from its document only if each of its values is. -/
theorem scalarOfJson?_of_readMap
    {column : List Char}
    {values : SortedMap Scalar}
    {found : Criterion}
    (isRead : readMap column (mapJson values).chars = .ok found) :
    ∀ entry ∈ values.entries, ∃ value, scalarOfJson? entry.2.toJson = some value := by
  rw [readMap, read?_chars_mapJson, Option.bind_some] at isRead
  obtain ⟨members, isObject, isRead⟩ := bind_eq_ok_iff.mp isRead
  obtain ⟨read, readValues, -⟩ := bind_eq_ok_iff.mp isRead
  have sorted := eq_some_of_orFail isObject
  cases readable : (mapJson values).any? with
  | none =>
      have shape : mapJson values = .object (membersOf values.entries) := rfl
      rw [shape] at readable sorted
      simp only [sortedMembers?, readable] at sorted
      cases sorted
  | some json =>
      rw [sortedMembers?_mapJson readable] at sorted
      cases sorted
      exact scalarOfJson?_of_readMapValues readValues

/-- Nothing but a map is read from a document. -/
theorem shape_of_readMap
    {column s : List Char}
    {found : Criterion}
    (isRead : readMap column s = .ok found) :
    found.shape = .map := by
  obtain ⟨members, -, isRead⟩ := bind_eq_ok_iff.mp isRead
  obtain ⟨values, -, returned⟩ := bind_eq_ok_iff.mp isRead
  cases returned
  rfl

/-- A map that holds something is told from a list by its first key. -/
theorem readContainer_mapJson
    (column : List Char)
    {values : SortedMap Scalar}
    (some : values.entries ≠ []) :
    readContainer column (mapJson values).chars = readMap column (mapJson values).chars := by
  have shape : ∃ rest, (mapJson values).chars = '\x7b' :: '"' :: rest := by
    cases entries : values.entries with
    | nil => exact absurd entries some
    | cons entry more =>
        rw [chars_mapJson, entries, List.map_cons, Text.joinWith_cons]
        exact ⟨_, rfl⟩
  obtain ⟨rest, shape⟩ := shape
  rw [shape]
  rfl

/-- Behind an operator that takes maps, a written map is read as one; among
containers, if it holds something. -/
theorem readOperand_mapJson
    (inGroup : Bool)
    (column : List Char)
    {operator : Operator}
    {values : SortedMap Scalar}
    (kind : operator.operandKind = .collection ∨
      operator.operandKind = .container ∧ values.entries ≠ []) :
    readOperand inGroup column operator (mapJson values).chars =
      readMap column (mapJson values).chars := by
  rcases kind with kind | ⟨kind, some⟩
  · rw [readOperand, if_neg (not_is_null_of_kind (by simp [kind]) _), kind]
    rfl
  · rw [readOperand_of_container inGroup column kind, readContainer_mapJson column some]

end Filter
end RestQuery
