import Mathlib.Data.List.Forall2
import Mathlib.Data.List.Induction
import Mathlib.Data.List.Nodup

/-!
# Steps that may fail

What it means for a chain of steps, and for a step taken along a list, to
succeed or to fail: a chain succeeds when each of its steps does, and along a
list the first failure is the one that is reported. Beside them stand the lists
whose repetitions were left out.
-/

namespace RestQuery
namespace Sequence

variable {α β γ ε : Type}

/-- A step that only returns succeeds with what it returns. -/
theorem pure_eq_ok_iff {value result : α} :
    (pure value : Except ε α) = .ok result ↔ value = result :=
  ⟨Except.ok.inj, congrArg Except.ok⟩

/-- A step that only returns does not fail. -/
theorem pure_ne_error {value : α} {fault : ε} : (pure value : Except ε α) ≠ .error fault :=
  fun same => nomatch same

/-- Two steps in a row succeed when each of them does. -/
theorem bind_eq_ok_iff
    {step : Except ε α}
    {next : α → Except ε β}
    {result : β} :
    step >>= next = .ok result ↔ ∃ value, step = .ok value ∧ next value = .ok result := by
  cases step with
  | error fault => simp [bind, Except.bind]
  | ok value => simp [bind, Except.bind]

/-- Two steps in a row fail when the first one does, or else the second. -/
theorem bind_eq_error_iff
    {step : Except ε α}
    {next : α → Except ε β}
    {fault : ε} :
    step >>= next = .error fault ↔
      step = .error fault ∨ ∃ value, step = .ok value ∧ next value = .error fault := by
  cases step with
  | error other => simp [bind, Except.bind]
  | ok value => simp [bind, Except.bind]

/-- Items that are each related to something are related to a list. -/
theorem exists_forall₂
    {relation : α → β → Prop}
    {xs : List α}
    (each : ∀ x ∈ xs, ∃ y, relation x y) :
    ∃ ys, List.Forall₂ relation xs ys := by
  induction xs with
  | nil => exact ⟨[], .nil⟩
  | cons x rest inductionHypothesis =>
      obtain ⟨⟨y, first⟩, others⟩ := List.forall_mem_cons.mp each
      obtain ⟨ys, further⟩ := inductionHypothesis others
      exact ⟨y :: ys, .cons first further⟩

/-- What is on the right of two related lists is related to something on the
left. -/
theorem exists_of_mem_right
    {relation : α → β → Prop}
    {xs : List α}
    {ys : List β}
    (related : List.Forall₂ relation xs ys)
    {y : β}
    (member : y ∈ ys) :
    ∃ x ∈ xs, relation x y := by
  induction related with
  | nil => cases member
  | cons first _ inductionHypothesis =>
      rcases List.mem_cons.mp member with rfl | later
      · exact ⟨_, List.mem_cons_self, first⟩
      · obtain ⟨x, inRest, related⟩ := inductionHypothesis later
        exact ⟨x, List.mem_cons_of_mem _ inRest, related⟩

/-- Items that are each made of the other are made along the list. -/
theorem forall₂_eq_map_iff
    {f : α → β}
    {xs : List α}
    {ys : List β} :
    List.Forall₂ (fun x y => y = f x) xs ys ↔ ys = xs.map f := by
  induction xs generalizing ys with
  | nil => simp
  | cons x rest inductionHypothesis =>
      simp only [List.forall₂_cons_left_iff, inductionHypothesis, List.map_cons]
      constructor
      · rintro ⟨_, _, rfl, rfl, rfl⟩
        rfl
      · rintro rfl
        exact ⟨_, _, rfl, rfl, rfl⟩

/-- A step along a list succeeds when it does so on every item. -/
theorem mapM_eq_ok_iff
    {f : α → Except ε β}
    {xs : List α}
    {ys : List β} :
    xs.mapM f = .ok ys ↔ List.Forall₂ (fun x y => f x = .ok y) xs ys := by
  induction xs generalizing ys with
  | nil => cases ys <;> simp [pure_eq_ok_iff]
  | cons x rest inductionHypothesis =>
      simp only [List.mapM_cons, bind_eq_ok_iff, pure_eq_ok_iff, inductionHypothesis,
        List.forall₂_cons_left_iff]
      constructor
      · rintro ⟨y, first, others, further, rfl⟩
        exact ⟨y, others, first, further, rfl⟩
      · rintro ⟨y, others, first, further, rfl⟩
        exact ⟨y, first, others, further, rfl⟩

/-- The results of a step along a list are related to other items exactly when
the step succeeds on every item with a related result. -/
theorem exists_mapM_eq_ok_and_forall₂_iff
    {f : β → Except ε γ}
    {relation : α → γ → Prop}
    {xs : List α}
    {ys : List β} :
    (∃ zs, ys.mapM f = .ok zs ∧ List.Forall₂ relation xs zs) ↔
      List.Forall₂ (fun x y => ∃ z, f y = .ok z ∧ relation x z) xs ys := by
  simp only [mapM_eq_ok_iff]
  constructor
  · rintro ⟨zs, results, related⟩
    induction results generalizing xs with
    | nil =>
        cases related
        exact .nil
    | cons success _ inductionHypothesis =>
        cases related with
        | cons first others => exact .cons ⟨_, success, first⟩ (inductionHypothesis others)
  · intro related
    induction related with
    | nil => exact ⟨[], .nil, .nil⟩
    | cons first _ inductionHypothesis =>
        obtain ⟨z, success, isRelated⟩ := first
        obtain ⟨zs, results, others⟩ := inductionHypothesis
        exact ⟨z :: zs, .cons success results, .cons isRelated others⟩

/-- A step along a list that gives the related value on every item gives the related
list. -/
theorem mapM_eq_some_of_forall₂
    {f : β → Option α}
    {values : List α}
    {items : List β}
    (each : List.Forall₂ (fun value item => f item = some value) values items) :
    items.mapM f = some values := by
  induction each with
  | nil => rfl
  | cons first _ inductionHypothesis =>
      rw [List.mapM_cons, first, inductionHypothesis]
      rfl

/-- A step along a list fails as it does on the first item that it fails on. -/
theorem mapM_eq_error_iff
    {f : α → Except ε β}
    {xs : List α}
    {fault : ε} :
    xs.mapM f = .error fault ↔
      ∃ before x after,
        xs = before ++ x :: after ∧ (∀ y ∈ before, ∃ z, f y = .ok z) ∧ f x = .error fault := by
  induction xs with
  | nil => simp [pure_ne_error]
  | cons x rest inductionHypothesis =>
      simp only [List.mapM_cons, bind_eq_error_iff, pure_ne_error, and_false, exists_false,
        or_false, inductionHypothesis]
      constructor
      · rintro (fails | ⟨y, first, before, other, after, rfl, succeed, fails⟩)
        · exact ⟨[], x, rest, rfl, by simp, fails⟩
        · refine ⟨x :: before, other, after, rfl, ?_, fails⟩
          exact List.forall_mem_cons.mpr ⟨⟨y, first⟩, succeed⟩
      · rintro ⟨before, other, after, shape, succeed, fails⟩
        cases before with
        | nil =>
            obtain ⟨rfl, rfl⟩ := List.cons.inj shape
            exact .inl fails
        | cons first before =>
            obtain ⟨rfl, rfl⟩ := List.cons.inj shape
            obtain ⟨⟨y, success⟩, succeed⟩ := List.forall_mem_cons.mp succeed
            exact .inr ⟨y, success, before, other, after, rfl, succeed, fails⟩

/-! ## Lists without repetitions -/

section Repetitions

variable [BEq α] [LawfulBEq α]

/-- An item behind a list is a new one, or one that the list has already. -/
theorem eraseDups_append_singleton (xs : List α) (x : α) [Decidable (x ∈ xs)] :
    (xs ++ [x]).eraseDups = if x ∈ xs then xs.eraseDups else xs.eraseDups ++ [x] := by
  rw [List.eraseDups_append]
  split
  · next member => simp [List.removeAll, member]
  · next absent => simp [List.removeAll, absent, List.eraseDups_cons]

theorem nodup_eraseDups (xs : List α) : xs.eraseDups.Nodup := by
  classical
  induction xs using List.reverseRecOn with
  | nil => simp
  | append_singleton xs x inductionHypothesis =>
      rw [eraseDups_append_singleton]
      split
      · exact inductionHypothesis
      · next absent =>
          have beside : x ∉ xs.eraseDups := mt List.mem_eraseDups.mp absent
          exact inductionHypothesis.append (List.nodup_singleton x)
            (List.disjoint_singleton.mpr beside)

end Repetitions

end Sequence
end RestQuery
