import RestQuery.Proofs.Query.Parameters

/-!
# The parameters of orderings

Each table that is sorted, the queried one or an embedded one, has one parameter
for it. The tables are listed as they first occur among the orderings, and the
last ordering of a table is the one that counts.
-/

namespace RestQuery

/-! ## Names of parameters -/

/-- Different tables have different names for the same parameter, whatever the
tables are called. -/
theorem scopedKey_injective (name : String) :
    Function.Injective fun embedded => scopedKey embedded name := by
  have longer : ∀ table : String, table ++ "." ++ name ≠ name := by
    intro table same
    have lengths := congrArg (fun text => text.toList.length) same
    simp at lengths
    omega
  intro left right same
  cases left with
  | none =>
      cases right with
      | none => rfl
      | some table => exact absurd same.symm (longer table)
  | some table =>
      cases right with
      | none => exact absurd same (longer table)
      | some other =>
          have tables := (String.append_left_inj _).mp ((String.append_left_inj _).mp same)
          exact congrArg some tables

namespace Query

open Sequence

/-! ## One parameter for each table -/

/-- A parameter is the one of the last ordering of a table. -/
def IsLastOrdering
    (orderings : List RowOrdering)
    (embedded : Option String)
    (param : Param) : Prop :=
  ∃ before ordering after,
    orderings = before ++ ordering :: after ∧
      ordering.embedded = embedded ∧
      (∀ other ∈ after, other.embedded ≠ embedded) ∧
      param = ordering.toParam

namespace IsLastOrdering

variable {orderings : List RowOrdering} {embedded : Option String} {param : Param}

theorem key_eq (isLast : IsLastOrdering orderings embedded param) :
    param.key = scopedKey embedded "order" := by
  obtain ⟨-, ordering, -, -, rfl, -, rfl⟩ := isLast
  rfl

/-- An ordering behind all others is the last one of its table. -/
theorem self (orderings : List RowOrdering) (last : RowOrdering) :
    IsLastOrdering (orderings ++ [last]) last.embedded last.toParam :=
  ⟨orderings, last, [], rfl, rfl, by simp, rfl⟩

/-- An ordering of another table changes nothing. -/
theorem append
    (isLast : IsLastOrdering orderings embedded param)
    {last : RowOrdering}
    (different : last.embedded ≠ embedded) :
    IsLastOrdering (orderings ++ [last]) embedded param := by
  obtain ⟨before, ordering, after, rfl, same, others, isParam⟩ := isLast
  refine ⟨before, ordering, after ++ [last], by simp, same, ?_, isParam⟩
  exact List.forall_mem_append.mpr ⟨others, by simpa using different⟩

end IsLastOrdering

theorem setParam_of_forall_ne
    {key value : String}
    {params : List Param}
    (absent : ∀ param ∈ params, param.key ≠ key) :
    setParam key value params = params ++ [⟨key, value⟩] := by
  induction params with
  | nil => rfl
  | cons param rest inductionHypothesis =>
      obtain ⟨different, others⟩ := List.forall_mem_cons.mp absent
      rw [setParam, if_neg different, inductionHypothesis others, List.cons_append]

variable {orderings : List RowOrdering} {tables : List (Option String)} {params : List Param}

/-- The parameters of some tables stay as they are if an ordering of none of them is
added. -/
theorem forall₂_isLastOrdering_append
    (each : List.Forall₂ (IsLastOrdering orderings) tables params)
    {last : RowOrdering}
    (absent : last.embedded ∉ tables) :
    List.Forall₂ (IsLastOrdering (orderings ++ [last])) tables params := by
  have others : ∀ embedded ∈ tables, last.embedded ≠ embedded := by
    rintro embedded member rfl
    exact absent member
  have together := (List.forall₂_and_left tables params).mpr ⟨others, each⟩
  apply together.imp
  rintro embedded param ⟨different, isLast⟩
  exact isLast.append different

/-- An ordering of a table that has a parameter takes its place. -/
theorem forall₂_setParam_of_mem
    (each : List.Forall₂ (IsLastOrdering orderings) tables params)
    (distinct : tables.Nodup)
    {last : RowOrdering}
    (member : last.embedded ∈ tables) :
    List.Forall₂ (IsLastOrdering (orderings ++ [last])) tables
      (setParam last.key last.value params) := by
  induction each with
  | nil => cases member
  | cons isLast rest inductionHypothesis =>
      rename_i embedded param tables params
      obtain ⟨headAbsent, restDistinct⟩ := List.nodup_cons.mp distinct
      by_cases same : last.embedded = embedded
      · have hit : param.key = last.key := by
          rw [isLast.key_eq, RowOrdering.key, same]
        rw [setParam, if_pos hit]
        refine .cons ?_ (forall₂_isLastOrdering_append rest (same ▸ headAbsent))
        exact same ▸ IsLastOrdering.self orderings last
      · have missed : param.key ≠ last.key := by
          rw [isLast.key_eq, RowOrdering.key]
          exact fun keys => same (scopedKey_injective "order" keys.symm)
        have inRest : last.embedded ∈ tables := (List.mem_cons.mp member).resolve_left same
        rw [setParam, if_neg missed]
        exact .cons (isLast.append same) (inductionHypothesis restDistinct inRest)

/-- An ordering of a table without a parameter adds one at the end. -/
theorem forall₂_setParam_of_not_mem
    (each : List.Forall₂ (IsLastOrdering orderings) tables params)
    {last : RowOrdering}
    (absent : last.embedded ∉ tables) :
    List.Forall₂ (IsLastOrdering (orderings ++ [last])) (tables ++ [last.embedded])
      (setParam last.key last.value params) := by
  have missed : ∀ param ∈ params, param.key ≠ last.key := by
    intro param member same
    obtain ⟨embedded, isTable, isLast⟩ := exists_of_mem_right each member
    rw [isLast.key_eq] at same
    exact absent (scopedKey_injective "order" same ▸ isTable)
  rw [setParam_of_forall_ne missed]
  apply List.rel_append (forall₂_isLastOrdering_append each absent)
  exact .cons (IsLastOrdering.self orderings last) .nil

/-- The parameters of orderings are those of the last ordering of each table, and the
tables are listed as they first occur. -/
theorem forall₂_orderParams (orderings : List RowOrdering) :
    List.Forall₂ (IsLastOrdering orderings)
      (orderings.map (·.embedded)).eraseDups (orderParams orderings) := by
  induction orderings using List.reverseRecOn with
  | nil => exact .nil
  | append_singleton orderings last inductionHypothesis =>
      have added : orderParams (orderings ++ [last]) =
          setParam last.key last.value (orderParams orderings) := by
        rw [orderParams, List.foldl_append]
        rfl
      rw [added, List.map_append, List.map_singleton, eraseDups_append_singleton]
      split
      · next member =>
          exact forall₂_setParam_of_mem inductionHypothesis (nodup_eraseDups _)
            (List.mem_eraseDups.mpr member)
      · next absent =>
          exact forall₂_setParam_of_not_mem inductionHypothesis
            (mt List.mem_eraseDups.mp absent)

/-- Different parameters of orderings have different names. -/
theorem nodup_keys_orderParams (orderings : List RowOrdering) :
    ((orderParams orderings).map (·.key)).Nodup := by
  have keys : (orderParams orderings).map (·.key) =
      (orderings.map (·.embedded)).eraseDups.map (scopedKey · "order") := by
    apply forall₂_eq_map_iff.mp
    apply List.forall₂_map_right_iff.mpr
    exact (forall₂_orderParams orderings).imp fun _ _ isLast => isLast.key_eq
  rw [keys]
  exact (nodup_eraseDups _).map (scopedKey_injective "order")

/-- The parameters of orderings stand behind those of the filters, in front of the
projection. They have different names; there is one for each table that the orderings
sort, in the order in which the tables first occur; and each is the parameter of the
last ordering of its table. -/
theorem exists_orderParams_of_params
    {settings : Settings}
    {query : Query}
    {params : List Param}
    (written : query.params settings = .ok params) :
    (∃ filters,
      query.filters.mapM Filter.toParam = .ok filters ∧
        params =
          settings.params ++ apiKeyParams settings ++ filters
            ++ orderParams query.orderings
            ++ (projectionParams query.projection ++ conflictParams query.conflictColumn
              ++ boundParams "limit" query.limit ++ boundParams "offset" query.offset)) ∧
      ((orderParams query.orderings).map (·.key)).Nodup ∧
      List.Forall₂ (IsLastOrdering query.orderings)
        (query.orderings.map (·.embedded)).eraseDups (orderParams query.orderings) := by
  refine ⟨?_, nodup_keys_orderParams _, forall₂_orderParams _⟩
  obtain ⟨filters, each, isReturned⟩ := bind_eq_ok_iff.mp written
  refine ⟨filters, each, ?_⟩
  rw [← pure_eq_ok_iff.mp isReturned, trailingParams]
  simp only [List.append_assoc]

/-- Of two orderings of the queried table the second one counts, in the place of the
first one, in front of an embedded table that is sorted between them. -/
theorem exists_orderParams_of_params_messages :
    let query : Query :=
      { orderings :=
          [⟨none, "id", .ascending, .first⟩,
            ⟨some "messages", "id", .ascending, .last⟩,
            ⟨none, "username", .descending, .last⟩] }
    ∃ params,
      query.params {} = .ok params ∧
        orderParams query.orderings =
          [⟨"order", "username.desc.nullslast"⟩, ⟨"messages.order", "id.asc.nullslast"⟩] ∧
        ((orderParams query.orderings).map (·.key)).Nodup ∧
        List.Forall₂ (IsLastOrdering query.orderings) [none, some "messages"]
          (orderParams query.orderings) := by
  intro query
  obtain ⟨params, written⟩ : ∃ params, query.params {} = .ok params := ⟨_, rfl⟩
  have tables : (query.orderings.map (·.embedded)).eraseDups = [none, some "messages"] := by
    decide
  obtain ⟨-, distinct, each⟩ := exists_orderParams_of_params written
  rw [tables] at each
  exact ⟨params, written, by decide, distinct, each⟩

end Query
end RestQuery
