import RestQuery.Http.ContentRange
import RestQuery.Proofs.Text.Cutting
import RestQuery.Proofs.Text.Whole

/-!
# The grammar of content ranges

A content range is made of rows, a slash and a total; rows are a star or two numbers
with a dash between them. The parts hold no separator of their own, so that a value is
cut at its first slash and its rows at their first dash without losing another way to
read them, and a total is told exactly if the value without white space around it is a
content range.
-/

namespace RestQuery
namespace ContentRange

open Text (IsTrimmed IsUInt64Literal)

/-- The rows of a content range: a star, or the numbers of the first and of the last
row. -/
inductive IsRows : List Char → Prop
  | star : IsRows ['*']
  | interval
      {first last : List Char}
      {m n : UInt64}
      (isFirst : IsUInt64Literal first m)
      (isLast : IsUInt64Literal last n) :
      IsRows (first ++ '-' :: last)

/-- A content range with its total. -/
inductive IsRange : List Char → UInt64 → Prop
  | intro
      {rows total : List Char}
      {count : UInt64}
      (isRows : IsRows rows)
      (isTotal : IsUInt64Literal total count) :
      IsRange (rows ++ '/' :: total) count

theorem isSome_readUInt64?_iff {s : List Char} :
    (Text.readUInt64? s).isSome = true ↔ ∃ n, IsUInt64Literal s n := by
  simp only [Option.isSome_iff_exists, Text.readUInt64?_eq_some_iff]

/-- Two numbers are found in a text exactly if it is made of them and a dash. -/
theorem isRowRange_iff {s : List Char} : isRowRange s = true ↔ IsRows s := by
  rw [isRowRange, Bool.or_eq_true, beq_iff_eq]
  constructor
  · rintro (rfl | numbers)
    · exact .star
    · cases cut : Text.cutAt '-' s with
      | none => simp [cut] at numbers
      | some parts =>
          rw [cut, Bool.and_eq_true, isSome_readUInt64?_iff, isSome_readUInt64?_iff] at numbers
          obtain ⟨⟨m, isFirst⟩, n, isLast⟩ := numbers
          rw [(Text.eq_append_of_cutAt cut).1]
          exact .interval isFirst isLast
  · rintro (_ | ⟨isFirst, isLast⟩)
    · exact .inl rfl
    · right
      rw [Text.cutAt_append _ (isFirst.not_mem rfl (by decide)), Bool.and_eq_true,
        isSome_readUInt64?_iff, isSome_readUInt64?_iff]
      exact ⟨⟨_, isFirst⟩, _, isLast⟩

/-- There is no slash in rows. -/
theorem IsRows.slash_not_mem {rows : List Char} (isRows : IsRows rows) : '/' ∉ rows := by
  cases isRows with
  | star => decide
  | interval isFirst isLast =>
      rw [List.mem_append, List.mem_cons, not_or, not_or]
      exact ⟨isFirst.not_mem rfl (by decide), by decide, isLast.not_mem rfl (by decide)⟩

/-- A total is read from exactly the values that are content ranges once they are
trimmed. -/
theorem readTotal?_eq_some_iff {s : List Char} {count : UInt64} :
    readTotal? s = some count ↔ IsRange (Text.trim s) count := by
  rw [readTotal?, Option.bind_eq_bind, Option.bind_eq_some_iff]
  constructor
  · rintro ⟨⟨rows, total⟩, cut, found⟩
    obtain ⟨isRows, isTotal⟩ := Option.ite_none_right_eq_some.mp found
    rw [(Text.eq_append_of_cutAt cut).1]
    exact .intro (isRowRange_iff.mp isRows) (Text.readUInt64?_eq_some_iff.mp isTotal)
  · generalize Text.trim s = trimmed
    rintro ⟨isRows, isTotal⟩
    refine ⟨_, Text.cutAt_append _ isRows.slash_not_mem, ?_⟩
    exact Option.ite_none_right_eq_some.mpr
      ⟨isRowRange_iff.mpr isRows, Text.readUInt64?_eq_some_iff.mpr isTotal⟩

/-- A total is told by exactly the values that are a content range with this total once
the white space around them is dropped; every other value is refused and named in the
failure as it was given. -/
theorem total_eq_ok_iff_and_eq_error_iff (value : String) :
    IsTrimmed value.toList (Text.trim value.toList) ∧
      (∀ count, total value = .ok count ↔ IsRange (Text.trim value.toList) count) ∧
      ∀ error,
        total value = .error error ↔
          (∀ count, ¬IsRange (Text.trim value.toList) count) ∧
            error = .invalidContentRange (.invalid value) := by
  have read_iff (count : UInt64) :
      readTotal? value.toList = some count ↔ IsRange (Text.trim value.toList) count :=
    readTotal?_eq_some_iff
  refine ⟨Text.isTrimmed_trim _, fun count => ?_, fun error => ?_⟩
  · rw [← read_iff, total]
    cases readTotal? value.toList <;> simp
  · simp only [← read_iff, total]
    cases readTotal? value.toList <;> simp [eq_comm]

-- White space is dropped around a content range, but not inside of it.
example : total "\u00A0\t0-24/3573 \n" = .ok 3573 := rfl

example : total "0-24/ 3573" = .error (.invalidContentRange (.invalid "0-24/ 3573")) := rfl

end ContentRange
end RestQuery
