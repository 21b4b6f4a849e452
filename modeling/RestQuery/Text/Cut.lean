/-!
# Cutting texts

The elementary cuts that readers of small notations are made of: at the first
occurrence of a character or of a mark, behind a fixed beginning, between an
opening and a closing character, and at every occurrence of a separator.
-/

namespace RestQuery
namespace Text

/-- The parts before and after the first character satisfying `p`, without
that character; `none` when there is none. -/
def cutWhere (p : Char → Bool) : List Char → Option (List Char × List Char)
  | [] => none
  | c :: rest =>
      if p c then some ([], rest)
      else (cutWhere p rest).map fun parts => (c :: parts.1, parts.2)

/-- The parts before and after the first `separator`. -/
def cutAt (separator : Char) : List Char → Option (List Char × List Char) :=
  cutWhere (· == separator)

/-- What follows `lead` in a text that starts with it. -/
def after? : List Char → List Char → Option (List Char)
  | [], s => some s
  | _ :: _, [] => none
  | l :: lead, c :: rest => if l == c then after? lead rest else none

theorem eq_append_of_after?
    {lead s rest : List Char}
    (found : after? lead s = some rest) :
    s = lead ++ rest := by
  induction lead generalizing s with
  | nil =>
      cases found
      rfl
  | cons l lead ih =>
      cases s with
      | nil => simp [after?] at found
      | cons c more =>
          simp only [after?, beq_iff_eq] at found
          split at found
          · next same =>
              subst same
              rw [ih found, List.cons_append]
          · cases found

theorem after?_append (lead rest : List Char) : after? lead (lead ++ rest) = some rest := by
  induction lead with
  | nil => rfl
  | cons l lead ih => simpa [after?] using ih

/-- What follows a beginning is no longer than the text. -/
theorem length_le_of_after?
    {lead s rest : List Char}
    (found : after? lead s = some rest) :
    rest.length ≤ s.length := by
  rw [eq_append_of_after? found, List.length_append]
  omega

/-- The text starts with `lead`. -/
def startsWith (lead s : List Char) : Bool := (after? lead s).isSome

/-- The parts before and after the first occurrence of `mark`. -/
def cutAtMark (mark : List Char) : List Char → Option (List Char × List Char)
  | [] => if mark = [] then some ([], []) else none
  | c :: rest =>
      match after? mark (c :: rest) with
      | some behind => some ([], behind)
      | none => (cutAtMark mark rest).map fun parts => (c :: parts.1, parts.2)

/-- All but the last character, when that one is `closing`. -/
def beforeClosing? (closing : Char) : List Char → Option (List Char)
  | [] => none
  | [c] => if c == closing then some [] else none
  | c :: next :: rest => (beforeClosing? closing (next :: rest)).map (c :: ·)

/-- What stands between `opening` and `closing`, which must be the first and
the last of at least two characters. -/
def enclosed?
    (opening closing : Char) :
    List Char → Option (List Char)
  | [] => none
  | c :: rest => if c == opening then beforeClosing? closing rest else none

theorem length_of_beforeClosing?
    {closing : Char}
    {s inner : List Char}
    (found : beforeClosing? closing s = some inner) :
    inner.length + 1 = s.length := by
  induction s generalizing inner with
  | nil => simp [beforeClosing?] at found
  | cons c rest ih =>
      cases rest with
      | nil =>
          simp only [beforeClosing?] at found
          split at found
          · cases found
            rfl
          · cases found
      | cons next more =>
          simp only [beforeClosing?, Option.map_eq_some_iff] at found
          obtain ⟨shorter, foundShorter, rfl⟩ := found
          simpa using ih foundShorter

/-- What is enclosed is shorter by the two enclosing characters. -/
theorem length_of_enclosed?
    {opening closing : Char}
    {s inner : List Char}
    (found : enclosed? opening closing s = some inner) :
    inner.length + 2 = s.length := by
  cases s with
  | nil => simp [enclosed?] at found
  | cons c rest =>
      simp only [enclosed?] at found
      split at found
      · have := length_of_beforeClosing? found
        simp only [List.length_cons]
        omega
      · cases found

/-- Every occurrence of `old` replaced by `new`. -/
def replaceChar (old new : Char) (s : List Char) : List Char :=
  s.map fun c => if c == old then new else c

/-- The parts between the occurrences of `separator`: one more than there are
separators. -/
def splitAt (separator : Char) : List Char → List (List Char)
  | [] => [[]]
  | c :: rest =>
      if c == separator then [] :: splitAt separator rest
      else
        match splitAt separator rest with
        | [] => [[c]]
        | part :: parts => (c :: part) :: parts

/-- The parts with `separator` between each two neighbours. -/
def joinWith (separator : Char) : List (List Char) → List Char
  | [] => []
  | [part] => part
  | part :: next :: parts => part ++ separator :: joinWith separator (next :: parts)

end Text
end RestQuery
