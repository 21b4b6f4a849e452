import RestQuery.Proofs.Session.Reordering

/-!
# Refused refinements

A refinement with one condition is refused as a whole and leaves the query as it
was. Several equalities at once are kept one by one, and a refusal does not take
back those in front of it: the query keeps them, and the next call sends them.
-/

namespace RestQuery

/-! ## Pairs -/

/-- One of the pairs is refused with the error, and the equalities of the pairs in
front of it are accepted as the filters. -/
def RefusedBehind
    (pairs : List (String × Criterion))
    (kept : List Filter)
    (error : Error) : Prop :=
  ∃ before refused rest,
    pairs = before ++ refused :: rest ∧
      List.Forall₂ (fun pair filter => Filter.condition pair.1 .equal pair.2 = .ok filter)
        before kept ∧
      Filter.condition refused.1 .equal refused.2 = .error error

namespace RefusedBehind

variable {pair : String × Criterion} {rest : List (String × Criterion)}
variable {kept : List Filter} {error : Error}

theorem not_nil : ¬RefusedBehind [] kept error := by
  rintro ⟨before, refused, rest, shape, -, -⟩
  cases before <;> cases shape

/-- Behind a pair that is refused, no pair counts. -/
theorem cons_iff_of_error
    {fault : Error}
    (refused : Filter.condition pair.1 .equal pair.2 = .error fault) :
    RefusedBehind (pair :: rest) kept error ↔ kept = [] ∧ fault = error := by
  constructor
  · rintro ⟨before, other, behind, shape, accepted, fails⟩
    cases before with
    | nil =>
        cases shape
        cases accepted
        exact ⟨rfl, Except.error.inj (refused.symm.trans fails)⟩
    | cons first before =>
        cases shape
        cases accepted with
        | cons success _ => cases refused.symm.trans success
  · rintro ⟨rfl, rfl⟩
    exact ⟨[], pair, rest, rfl, .nil, refused⟩

/-- A pair that is accepted stands in front of the one that is refused. -/
theorem cons_iff_of_ok
    {filter : Filter}
    (accepted : Filter.condition pair.1 .equal pair.2 = .ok filter) :
    RefusedBehind (pair :: rest) kept error ↔
      ∃ others, kept = filter :: others ∧ RefusedBehind rest others error := by
  constructor
  · rintro ⟨before, refused, behind, shape, successes, fails⟩
    cases before with
    | nil =>
        cases shape
        cases accepted.symm.trans fails
    | cons first before =>
        cases shape
        cases successes with
        | cons success others =>
            cases accepted.symm.trans success
            exact ⟨_, rfl, before, refused, behind, rfl, others, fails⟩
  · rintro ⟨others, rfl, before, refused, behind, rfl, successes, fails⟩
    exact ⟨pair :: before, refused, behind, rfl, .cons accepted successes, fails⟩

/-- Nothing is accepted in front of the pair that is refused exactly if it is the
first one. -/
theorem eq_nil_iff
    (behind : RefusedBehind (pair :: rest) kept error) :
    kept = [] ↔ Filter.condition pair.1 .equal pair.2 = .error error := by
  cases built : Filter.condition pair.1 .equal pair.2 with
  | error fault =>
      obtain ⟨nothing, rfl⟩ := (cons_iff_of_error built).mp behind
      exact iff_of_true nothing rfl
  | ok filter =>
      obtain ⟨others, rfl, -⟩ := (cons_iff_of_ok built).mp behind
      simp

end RefusedBehind

/-! ## Queries -/

namespace Query

theorem keepEqualities_cons_of_ok
    (query : Query)
    {pair : String × Criterion}
    {filter : Filter}
    (accepted : Filter.condition pair.1 .equal pair.2 = .ok filter)
    (rest : List (String × Criterion)) :
    query.keepEqualities (pair :: rest) = (query.keep filter).keepEqualities rest := by
  rw [keepEqualities, accepted]

theorem keepEqualities_cons_of_error
    (query : Query)
    {pair : String × Criterion}
    {error : Error}
    (refused : Filter.condition pair.1 .equal pair.2 = .error error)
    (rest : List (String × Criterion)) :
    query.keepEqualities (pair :: rest) = (query, .error error) := by
  rw [keepEqualities, refused]

/-- Equalities are refused exactly if one of the pairs is, and then the query has
gained the filters of the pairs in front of it. -/
theorem keepEqualities_eq_error_iff
    {query after : Query}
    {pairs : List (String × Criterion)}
    {error : Error} :
    query.keepEqualities pairs = (after, .error error) ↔
      ∃ kept, RefusedBehind pairs kept error ∧
        after = { query with filters := query.filters ++ kept } := by
  induction pairs generalizing query with
  | nil => simp [keepEqualities, RefusedBehind.not_nil]
  | cons pair rest inductionHypothesis =>
      cases built : Filter.condition pair.1 .equal pair.2 with
      | error fault =>
          rw [keepEqualities_cons_of_error query built]
          simp only [RefusedBehind.cons_iff_of_error built]
          constructor
          · rintro ⟨⟩
            exact ⟨[], ⟨rfl, rfl⟩, by simp⟩
          · rintro ⟨_, ⟨rfl, rfl⟩, rfl⟩
            simp
      | ok filter =>
          rw [keepEqualities_cons_of_ok query built, inductionHypothesis]
          simp only [RefusedBehind.cons_iff_of_ok built]
          constructor
          · rintro ⟨others, behind, rfl⟩
            exact ⟨filter :: others, ⟨others, rfl, behind⟩, by simp [keep]⟩
          · rintro ⟨_, ⟨others, rfl, behind⟩, rfl⟩
            exact ⟨others, behind, by simp [keep]⟩

/-- A filter that was refused leaves the query as it was. -/
theorem keepBuilt_fst_of_error
    {query : Query}
    {built : Except Error Filter}
    {error : Error}
    (refused : (query.keepBuilt built).2 = .error error) :
    (query.keepBuilt built).1 = query := by
  cases built with
  | error fault => rfl
  | ok filter => cases refused

/-- Only equalities that are refused change the query. -/
theorem refine_fst_of_error
    {query : Query}
    {refinement : Refinement}
    {error : Error}
    (refused : (query.refine refinement).2 = .error error)
    (notEqualities : ∀ pairs, refinement ≠ .equalities pairs) :
    (query.refine refinement).1 = query := by
  cases refinement with
  | condition column operator criterion => exact keepBuilt_fst_of_error refused
  | exclusion column operator criterion => exact keepBuilt_fst_of_error refused
  | equalities pairs => exact absurd rfl (notEqualities pairs)
  | keep | order | project | limit | offset | window | conflictColumn => cases refused

end Query

/-! ## Tables -/

namespace Table

variable {ρ : Type}

/-- The table with further filters. -/
def keepingAll (table : Table ρ) (kept : List Filter) : Table ρ :=
  { table with query := { table.query with filters := table.query.filters ++ kept } }

theorem keepingAll_eq_self_iff
    {table : Table ρ}
    {kept : List Filter} :
    table.keepingAll kept = table ↔ kept = [] := by
  constructor
  · intro same
    have filters := congrArg (fun table => table.query.filters) same
    exact List.append_right_eq_self.mp filters
  · rintro rfl
    simp [keepingAll]

/-- What a table becomes when a refinement of it is refused with an error. Other
refinements than equalities change nothing; equalities add the filters of the
pairs in front of the one that is refused, so that they change nothing exactly if
the first pair is refused. -/
structure Refuses
    (table : Table ρ)
    (refinement : Refinement)
    (error : Error)
    (after : Table ρ) : Prop where
  unchanged : (∀ pairs, refinement ≠ .equalities pairs) → after = table
  equalities : ∀ pairs, refinement = .equalities pairs →
    ∃ kept, RefusedBehind pairs kept error ∧ after = table.keepingAll kept
  unchanged_iff : after = table ↔
    ∀ pair rest, refinement = .equalities (pair :: rest) →
      Filter.condition pair.1 .equal pair.2 = .error error

/-- A refinement that fails changes nothing, but for equalities of which the first
is accepted. -/
theorem refuses_of_error
    {table : Table ρ}
    {refinement : Refinement}
    {error : Error}
    (refused : (table.refine refinement).2 = .error error) :
    table.Refuses refinement error (table.refine refinement).1 := by
  by_cases notEqualities : ∀ pairs, refinement ≠ .equalities pairs
  · have same : (table.refine refinement).1 = table := by
      show { table with query := (table.query.refine refinement).1 } = table
      rw [Query.refine_fst_of_error refused notEqualities]
    refine ⟨fun _ => same, fun pairs isEqualities => absurd isEqualities (notEqualities pairs), ?_⟩
    refine iff_of_true same ?_
    intro pair rest isEqualities
    exact absurd isEqualities (notEqualities (pair :: rest))
  · obtain ⟨pairs, rfl⟩ := not_forall_not.mp notEqualities
    obtain ⟨kept, behind, after⟩ := Query.keepEqualities_eq_error_iff.mp (Prod.ext rfl refused)
    have grown : (table.refine (.equalities pairs)).1 = table.keepingAll kept :=
      congrArg (fun query => { table with query : Table ρ }) after
    refine ⟨fun others => absurd rfl (others pairs), ?_, ?_⟩
    · rintro _ ⟨rfl⟩
      exact ⟨kept, behind, grown⟩
    · rw [grown, keepingAll_eq_self_iff]
      cases pairs with
      | nil => exact absurd behind RefusedBehind.not_nil
      | cons first others =>
          rw [behind.eq_nil_iff]
          constructor
          · rintro firstRefused _ _ ⟨⟩
            exact firstRefused
          · intro each
            exact each first others rfl

/-- The second of two equalities is refused, and the table keeps the first one. -/
theorem refuses_of_second_pair :
    let table := (Client.connect "http://localhost" {}).table Catalog.User
    let pairs : List (String × Criterion) := [("a", .scalar (.int 1)), ("b", .list [])]
    ∃ error,
      (table.refine (.equalities pairs)).2 = .error error ∧
        table.Refuses (.equalities pairs) error (table.refine (.equalities pairs)).1 ∧
        (table.refine (.equalities pairs)).1 =
          table.keepingAll [.comparison "a" .equal (.int 1)] ∧
        (table.refine (.equalities pairs)).1 ≠ table := by
  intro table pairs
  have first : Filter.condition "a" .equal (.scalar (.int 1)) =
      .ok (.comparison "a" .equal (.int 1)) := rfl
  have refused : ∃ error, (table.refine (.equalities pairs)).2 = .error error := ⟨_, rfl⟩
  obtain ⟨error, refused⟩ := refused
  have leaves := refuses_of_error refused
  refine ⟨error, refused, leaves, rfl, ?_⟩
  intro same
  cases first.symm.trans (leaves.unchanged_iff.mp same _ _ rfl)

end Table
end RestQuery
