import RestQuery.Proofs.Text.Nesting

/-!
# Items as pieces of the bytes

A list need not be taken apart character by character. One pass over it keeps the offset
of each character among the bytes, and cuts out the bytes of an item when it meets the
comma behind it. The next item starts one byte further on, since that is how long a
comma is. The bytes behind the last comma are an item too, even when there are none; only
a text without bytes has no items.

Main statement: the pieces that such a pass cuts out are the bytes of the items, so the
offsets never fall inside a character.
-/

namespace RestQuery
namespace Text

/-- The UTF-8 form of a text. -/
def bytes (s : List Char) : List UInt8 := s.flatMap String.utf8EncodeChar

@[simp] theorem bytes_nil : bytes [] = [] := rfl

@[simp] theorem bytes_append (s t : List Char) : bytes (s ++ t) = bytes s ++ bytes t :=
  List.flatMap_append

theorem length_bytes_singleton (c : Char) : (bytes [c]).length = c.utf8Size := by
  rw [bytes, List.flatMap_singleton, String.length_utf8EncodeChar]

/-- What a pass over the bytes keeps: the scan, the offset at which the current item
starts, and the pieces cut out so far. -/
structure Cutter where
  scan : Scan := {}
  start : Nat := 0
  pieces : List (List UInt8) := []

namespace Cutter

/-- Read the character at an offset. -/
def step (text : List UInt8) (cutter : Cutter) (offset : Nat) (c : Char) : Cutter :=
  if c == ',' && cutter.scan.atTop then
    { cutter with
      start := offset + 1
      pieces := cutter.pieces ++ [text.extract cutter.start offset] }
  else { cutter with scan := cutter.scan.step c }

/-- Read the characters from an offset on. -/
def run (text : List UInt8) (cutter : Cutter) (offset : Nat) : List Char → Cutter
  | [] => cutter
  | c :: rest => run text (cutter.step text offset c) (offset + c.utf8Size) rest

/-- The pieces, with the rest of the bytes as the last one. -/
def withRest (text : List UInt8) (cutter : Cutter) : List (List UInt8) :=
  cutter.pieces ++ [text.drop cutter.start]

/-- The pieces at the end of the bytes. -/
def finish (text : List UInt8) (cutter : Cutter) : List (List UInt8) :=
  if cutter.start < text.length || !cutter.pieces.isEmpty then cutter.withRest text
  else cutter.pieces

end Cutter

/-- The pieces that one pass cuts out of the bytes of a text. -/
def pieces (s : List Char) : List (List UInt8) :=
  (Cutter.run (bytes s) {} 0 s).finish (bytes s)

theorem modifyHead_nil_append (parts : List (List Char)) :
    parts.modifyHead ([] ++ ·) = parts := by
  cases parts <;> rfl

/-- A character in front of the first part may go to what stands before it. -/
theorem modifyHead_append_consToFirst
    (s : List Char)
    (c : Char)
    {parts : List (List Char)}
    (some : parts ≠ []) :
    (consToFirst c parts).modifyHead (s ++ ·) = parts.modifyHead (s ++ [c] ++ ·) := by
  cases parts with
  | nil => exact absurd rfl some
  | cons part rest => simp [consToFirst]

namespace Cutter

variable {text : List UInt8} {cutter : Cutter} {offset : Nat}

/-- A pass that stands behind a part of an item has the rest of that item and all later
items before it. -/
theorem withRest_run
    (before : List UInt8)
    (item rest : List Char)
    (whole : text = before ++ bytes item ++ bytes rest)
    (starts : cutter.start = before.length)
    (stands : offset = (before ++ bytes item).length) :
    (cutter.run text offset rest).withRest text =
      cutter.pieces ++ ((splitFrom cutter.scan rest).modifyHead (item ++ ·)).map bytes := by
  induction rest generalizing before item cutter offset with
  | nil => simp [run, withRest, splitFrom, whole, starts]
  | cons c rest inductionHypothesis =>
      rw [← List.singleton_append, bytes_append, ← List.append_assoc] at whole
      have next : offset + c.utf8Size = (before ++ bytes item ++ bytes [c]).length := by
        rw [List.length_append, length_bytes_singleton, stands]
      rw [run, splitFrom, step]
      by_cases cut : (c == ',' && cutter.scan.atTop) = true
      · obtain ⟨rfl, -⟩ := (Scan.cuts_iff cutter.scan c).mp cut
        have piece : text.extract cutter.start offset = bytes item := by
          rw [whole, starts, stands]
          simp [List.extract_eq_take_drop]
        have behind : text = before ++ bytes item ++ bytes [','] ++ bytes [] ++ bytes rest := by
          rw [bytes_nil, List.append_nil, whole]
        rw [if_pos cut, if_pos cut, piece,
          inductionHypothesis _ [] behind next (by rw [next, bytes_nil, List.append_nil]),
          modifyHead_nil_append]
        simp
      · have longer : before ++ bytes item ++ bytes [c] = before ++ bytes (item ++ [c]) := by
          rw [bytes_append, List.append_assoc]
        rw [longer] at whole next
        rw [if_neg cut, if_neg cut, modifyHead_append_consToFirst item c (splitFrom_ne_nil _ _)]
        exact inductionHypothesis before (item ++ [c]) whole starts next

/-- As long as nothing is cut out, the current item is the first one. -/
theorem start_run_eq_zero
    (rest : List Char)
    (first : cutter.pieces = [] → cutter.start = 0)
    (uncut : (cutter.run text offset rest).pieces = []) :
    (cutter.run text offset rest).start = 0 := by
  induction rest generalizing cutter offset with
  | nil => exact first uncut
  | cons c rest inductionHypothesis =>
      refine inductionHypothesis (fun none => ?_) uncut
      rw [step] at none ⊢
      split at none
      · simp at none
      · next inItem => rw [if_neg inItem, first none]

end Cutter

/-- The bytes of the items are the pieces that one pass cuts out. -/
theorem pieces_eq_map_bytes (s : List Char) : pieces s = (splitTopLevel s).map bytes := by
  cases s with
  | nil => rfl
  | cons c rest =>
      have someBytes : 0 < (bytes (c :: rest)).length := by
        rw [← List.singleton_append, bytes_append, List.length_append, length_bytes_singleton]
        exact Nat.add_pos_left c.utf8Size_pos _
      have all := @Cutter.withRest_run (bytes (c :: rest)) {} 0 [] [] (c :: rest) rfl rfl rfl
      rw [modifyHead_nil_append] at all
      rw [pieces, Cutter.finish, if_pos, all]
      · rfl
      · by_cases uncut : (Cutter.run (bytes (c :: rest)) {} 0 (c :: rest)).pieces = []
        · simp [Cutter.start_run_eq_zero (c :: rest) (fun _ => rfl) uncut, someBytes]
        · simp [uncut]

end Text
end RestQuery
