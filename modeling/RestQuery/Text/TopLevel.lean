/-!
# Splitting at top-level commas

A list of items is written with commas between them. A comma belongs to an
item when it stands inside double quotes or inside brackets; brackets inside
quotes do not count, and a backslash inside quotes takes the next character
out of the count.
-/

namespace RestQuery
namespace Text

/-- What a left-to-right scan remembers: how many brackets are open (negative
when more were closed than opened), whether it is inside double quotes, and
whether the next character is escaped. -/
structure Scan where
  depth : Int := 0
  quoted : Bool := false
  escaped : Bool := false
  deriving DecidableEq

namespace Scan

/-- The scan stands outside quotes with as many brackets closed as opened. -/
def atTop (scan : Scan) : Bool :=
  !scan.escaped && !scan.quoted && scan.depth == 0

/-- Read one character. -/
def step (scan : Scan) (c : Char) : Scan :=
  if scan.escaped then { scan with escaped := false }
  else if scan.quoted then
    if c == '\\' then { scan with escaped := true }
    else if c == '"' then { scan with quoted := false }
    else scan
  else if c == '"' then { scan with quoted := true }
  else if c == '(' || c == '[' || c == '\x7b' then { scan with depth := scan.depth + 1 }
  else if c == ')' || c == ']' || c == '\x7d' then { scan with depth := scan.depth - 1 }
  else scan

end Scan

/-- Put a character in front of the first part. -/
def consToFirst (c : Char) : List (List Char) → List (List Char)
  | [] => [[c]]
  | part :: parts => (c :: part) :: parts

/-- The parts between the commas that the scan meets at the top. -/
def splitFrom (scan : Scan) : List Char → List (List Char)
  | [] => [[]]
  | c :: rest =>
      if c == ',' && scan.atTop then [] :: splitFrom scan rest
      else consToFirst c (splitFrom (scan.step c) rest)

/-- The items of a comma-separated list; the empty text has none. -/
def splitTopLevel (s : List Char) : List (List Char) :=
  if s.isEmpty then [] else splitFrom {} s

theorem length_le_of_mem_consToFirst
    {c : Char}
    {parts : List (List Char)}
    {n : Nat}
    (bounded : ∀ part ∈ parts, part.length ≤ n) :
    ∀ part ∈ consToFirst c parts, part.length ≤ n + 1 := by
  intro part member
  cases parts with
  | nil =>
      simp only [consToFirst, List.mem_singleton] at member
      subst member
      simp
  | cons first rest =>
      simp only [consToFirst, List.mem_cons] at member
      rcases member with rfl | later
      · simpa using bounded first List.mem_cons_self
      · exact Nat.le_succ_of_le (bounded part (List.mem_cons_of_mem _ later))

theorem length_le_of_mem_splitFrom
    (scan : Scan)
    (s : List Char) :
    ∀ part ∈ splitFrom scan s, part.length ≤ s.length := by
  induction s generalizing scan with
  | nil => simp [splitFrom]
  | cons c rest ih =>
      intro part member
      simp only [splitFrom] at member
      split at member
      · rcases List.mem_cons.mp member with rfl | later
        · simp
        · exact Nat.le_succ_of_le (ih scan part later)
      · exact length_le_of_mem_consToFirst (ih (scan.step c)) part member

/-- An item is no longer than the list it stands in. -/
theorem length_le_of_mem_splitTopLevel
    {s part : List Char}
    (member : part ∈ splitTopLevel s) :
    part.length ≤ s.length := by
  unfold splitTopLevel at member
  split at member
  · simp at member
  · exact length_le_of_mem_splitFrom {} s part member

end Text
end RestQuery
