import RestQuery.Error
import RestQuery.Proofs.Sequence

/-!
# Kinds of failures

A chain of steps fails as one of its steps does. If all of them fail with errors
of one kind only, so does the chain.
-/

namespace RestQuery

open Sequence

/-- The failures of a filter or a call that was not put together right. -/
def Error.isUsage : Error → Bool
  | usage _ => true
  | _ => false

theorem Error.exists_usage {error : Error} (isUsage : error.isUsage = true) :
    ∃ fault, error = .usage fault := by
  cases error <;> first | exact ⟨_, rfl⟩ | cases isUsage

/-- A step fails with errors of one kind only. -/
structure FailsOnly {α : Type} (kind : Error → Bool) (step : Except Error α) : Prop where
  kind_of_error : ∀ error, step = .error error → kind error = true

namespace FailsOnly

variable {α β : Type} {kind : Error → Bool}

theorem of_ok {value : α} : FailsOnly kind (.ok value) := ⟨nofun⟩

theorem of_pure {value : α} : FailsOnly kind (pure value) := ⟨nofun⟩

theorem of_error {error : Error} (fitting : kind error = true) :
    FailsOnly kind (.error error : Except Error α) := by
  refine ⟨fun _ failure => ?_⟩
  cases failure
  exact fitting

/-- Errors of one kind are errors of any wider one. -/
theorem mono
    {wider : Error → Bool}
    {step : Except Error α}
    (wide : ∀ error, kind error = true → wider error = true)
    (fails : FailsOnly kind step) :
    FailsOnly wider step :=
  ⟨fun error failure => wide error (fails.kind_of_error error failure)⟩

/-- A chain of steps fails as one of the steps does. -/
theorem bind
    {step : Except Error α}
    {next : α → Except Error β}
    (first : FailsOnly kind step)
    (second : ∀ value, FailsOnly kind (next value)) :
    FailsOnly kind (step >>= next) := by
  refine ⟨fun error failure => ?_⟩
  rcases bind_eq_error_iff.mp failure with failure | ⟨value, -, failure⟩
  · exact first.kind_of_error error failure
  · exact (second value).kind_of_error error failure

/-- A step along a list fails as it does on one of the items. -/
theorem mapM
    {step : α → Except Error β}
    {items : List α}
    (each : ∀ item ∈ items, FailsOnly kind (step item)) :
    FailsOnly kind (items.mapM step) := by
  refine ⟨fun error failure => ?_⟩
  obtain ⟨before, item, after, rfl, -, failure⟩ := mapM_eq_error_iff.mp failure
  exact (each item (by simp)).kind_of_error error failure

end FailsOnly
end RestQuery
