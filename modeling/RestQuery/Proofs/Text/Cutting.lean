import Mathlib.Data.List.TakeWhile
import RestQuery.Text.Blank
import RestQuery.Text.Quoted

/-!
# Cutting what was put together

The cuts of small notations undo the steps that put a text together: a text
between an opening and a closing character, a text in front of a separator it
does not hold, and a quoted text.
-/

namespace RestQuery
namespace Text

/-! ## Beginnings -/

/-- A text starts with another one exactly if that one is a beginning of it. -/
theorem startsWith_iff {lead s : List Char} : startsWith lead s = true ↔ lead <+: s := by
  rw [startsWith, Option.isSome_iff_exists]
  constructor
  · rintro ⟨rest, found⟩
    exact ⟨rest, (eq_append_of_after? found).symm⟩
  · rintro ⟨rest, rfl⟩
    exact ⟨rest, after?_append lead rest⟩

/-! ## Enclosed texts -/

theorem beforeClosing?_append (closing : Char) (s : List Char) :
    beforeClosing? closing (s ++ [closing]) = some s := by
  induction s with
  | nil => simp [beforeClosing?]
  | cons c rest inductionHypothesis =>
      cases rest with
      | nil => simp [beforeClosing?]
      | cons next more =>
          simpa [beforeClosing?] using inductionHypothesis

/-- What was put between two characters is what stands between them. -/
theorem enclosed?_enclose (opening closing : Char) (s : List Char) :
    enclosed? opening closing (opening :: s ++ [closing]) = some s := by
  rw [List.cons_append, enclosed?, if_pos (beq_self_eq_true opening),
    beforeClosing?_append]

theorem eq_append_of_beforeClosing?
    {closing : Char}
    {s inner : List Char}
    (found : beforeClosing? closing s = some inner) :
    s = inner ++ [closing] := by
  induction s generalizing inner with
  | nil => cases found
  | cons c rest inductionHypothesis =>
      cases rest with
      | nil =>
          rw [beforeClosing?] at found
          split at found
          · next same =>
              cases found
              rw [eq_of_beq same, List.nil_append]
          · cases found
      | cons next more =>
          obtain ⟨shorter, further, rfl⟩ := Option.map_eq_some_iff.mp found
          rw [List.cons_append, ← inductionHypothesis further]

/-- What is enclosed stands between the enclosing characters. -/
theorem eq_enclose_of_enclosed?
    {opening closing : Char}
    {s inner : List Char}
    (found : enclosed? opening closing s = some inner) :
    s = opening :: inner ++ [closing] := by
  cases s with
  | nil => cases found
  | cons c rest =>
      rw [enclosed?] at found
      split at found
      · next same =>
          rw [eq_of_beq same, List.cons_append, ← eq_append_of_beforeClosing? found]
      · cases found

/-! ## Separators -/

/-- A text is cut at the first character that satisfies the predicate. -/
theorem cutWhere_append
    {p : Char → Bool}
    {before : List Char}
    {c : Char}
    (rest : List Char)
    (absent : ∀ d ∈ before, p d = false)
    (separates : p c = true) :
    cutWhere p (before ++ c :: rest) = some (before, rest) := by
  induction before with
  | nil => simp [cutWhere, separates]
  | cons d more inductionHypothesis =>
      have dAbsent := absent d List.mem_cons_self
      have moreAbsent : ∀ e ∈ more, p e = false :=
        fun e member => absent e (List.mem_cons_of_mem d member)
      simp [cutWhere, dAbsent, inductionHypothesis moreAbsent]

/-- A text is cut at the first occurrence of the separator. -/
theorem cutAt_append
    {separator : Char}
    {before : List Char}
    (rest : List Char)
    (absent : separator ∉ before) :
    cutAt separator (before ++ separator :: rest) = some (before, rest) := by
  refine cutWhere_append rest ?_ (beq_self_eq_true separator)
  intro d member
  rw [beq_eq_false_iff_ne]
  rintro rfl
  exact absent member

/-- The parts around a separator make up the text with the separator between them,
which does not occur in the first of them. -/
theorem eq_append_of_cutAt
    {separator : Char}
    {s before rest : List Char}
    (cut : cutAt separator s = some (before, rest)) :
    s = before ++ separator :: rest ∧ separator ∉ before := by
  induction s generalizing before with
  | nil => cases cut
  | cons c more inductionHypothesis =>
      rw [cutAt, cutWhere] at cut
      split at cut
      · next separates =>
          cases cut
          rw [eq_of_beq separates]
          exact ⟨rfl, List.not_mem_nil⟩
      · next different =>
          obtain ⟨parts, further, same⟩ := Option.map_eq_some_iff.mp cut
          cases same
          obtain ⟨whole, absent⟩ := inductionHypothesis further
          refine ⟨congrArg (c :: ·) whole, List.not_mem_cons_of_ne_of_not_mem ?_ absent⟩
          rintro rfl
          exact different (beq_self_eq_true _)

/-- A text with a separator in it is cut somewhere. -/
theorem exists_cutAt_append
    (separator : Char)
    (before rest : List Char) :
    ∃ parts, cutAt separator (before ++ separator :: rest) = some parts := by
  induction before with
  | nil => exact ⟨([], rest), by simp [cutAt, cutWhere]⟩
  | cons c more inductionHypothesis =>
      obtain ⟨parts, found⟩ := inductionHypothesis
      rw [cutAt] at found
      rw [List.cons_append, cutAt, cutWhere, found]
      split <;> exact ⟨_, rfl⟩

/-- A text with a mark in it is cut somewhere. -/
theorem exists_cutAtMark_append (mark before rest : List Char) :
    ∃ parts, cutAtMark mark (before ++ (mark ++ rest)) = some parts := by
  induction before with
  | nil =>
      have found := after?_append mark rest
      rw [List.nil_append]
      cases shape : mark ++ rest with
      | nil => exact ⟨([], []), by simp [cutAtMark, (List.append_eq_nil_iff.mp shape).1]⟩
      | cons c more =>
          rw [shape] at found
          exact ⟨([], rest), by simp only [cutAtMark, found]⟩
  | cons c more inductionHypothesis =>
      obtain ⟨parts, found⟩ := inductionHypothesis
      rw [List.cons_append, cutAtMark, found]
      split <;> exact ⟨_, rfl⟩

/-- The parts around a mark make up the text with the mark between them. -/
theorem eq_append_of_cutAtMark
    {mark s before rest : List Char}
    (cut : cutAtMark mark s = some (before, rest)) :
    s = before ++ (mark ++ rest) := by
  induction s generalizing before with
  | nil =>
      rw [cutAtMark] at cut
      split at cut
      · next noMark =>
          cases cut
          rw [noMark]
          rfl
      · cases cut
  | cons c more inductionHypothesis =>
      rw [cutAtMark] at cut
      split at cut
      · next found =>
          cases cut
          rw [List.nil_append]
          exact eq_append_of_after? found
      · obtain ⟨parts, further, same⟩ := Option.map_eq_some_iff.mp cut
        cases same
        rw [List.cons_append, ← inductionHypothesis further]

/-- There is no mark in front of the one that a text is cut at. -/
theorem not_isInfix_of_cutAtMark
    {mark s before rest : List Char}
    (some : mark ≠ [])
    (cut : cutAtMark mark s = .some (before, rest)) :
    ¬mark <:+: before := by
  induction s generalizing before with
  | nil => simp [cutAtMark, some] at cut
  | cons c more inductionHypothesis =>
      have whole := eq_append_of_cutAtMark cut
      rw [cutAtMark] at cut
      split at cut
      · cases cut
        simpa using some
      · next noMark =>
          obtain ⟨parts, further, same⟩ := Option.map_eq_some_iff.mp cut
          cases same
          rintro ⟨front, back, occurs⟩
          cases front with
          | nil =>
              -- The mark would start the text, where it is looked for first.
              rw [← occurs, List.nil_append, List.append_assoc] at whole
              rw [whole, after?_append] at noMark
              cases noMark
          | cons d front =>
              refine inductionHypothesis further ⟨front, back, ?_⟩
              exact (List.cons.inj occurs).2

/-- A text is cut at the first occurrence of a mark of two different
characters. -/
theorem cutAtMark_append
    {first second : Char}
    (different : first ≠ second)
    {before : List Char}
    (rest : List Char)
    (absent : ¬[first, second] <:+: before) :
    cutAtMark [first, second] (before ++ first :: second :: rest) = some (before, rest) := by
  induction before with
  | nil => simp [cutAtMark, after?]
  | cons c more inductionHypothesis =>
      have moreAbsent : ¬[first, second] <:+: more := fun found =>
        absent (found.trans (List.suffix_cons c more).isInfix)
      -- The mark could start at the last character only if it were one character twice.
      have noMark : after? [first, second] (c :: (more ++ first :: second :: rest)) = none := by
        cases more with
        | nil => simp [after?, different.symm]
        | cons d more =>
            have notHere : ¬(first = c ∧ second = d) := by
              rintro ⟨rfl, rfl⟩
              exact absent (List.prefix_append [first, second] more).isInfix
            simp only [List.cons_append, after?, beq_iff_eq]
            grind
      rw [List.cons_append, cutAtMark, noMark, inductionHypothesis moreAbsent]
      rfl

/-- Joining puts the separator in front of every part but the first. -/
theorem joinWith_cons
    (separator : Char)
    (part : List Char)
    (parts : List (List Char)) :
    joinWith separator (part :: parts) = part ++ parts.flatMap (separator :: ·) := by
  induction parts generalizing part with
  | nil => simp [joinWith]
  | cons next rest inductionHypothesis =>
      rw [joinWith, inductionHypothesis, List.flatMap_cons, List.cons_append]

/-- A joined text starts like its first part, or with the separator. -/
theorem head?_joinWith_cons_iff
    {separator c : Char}
    (different : c ≠ separator)
    (part : List Char)
    (parts : List (List Char)) :
    (joinWith separator (part :: parts)).head? = some c ↔ part.head? = some c := by
  rw [joinWith_cons]
  cases part with
  | nil => cases parts <;> simp [different.symm]
  | cons d more => rfl

/-- A joined text holds nothing but its parts and the separator. -/
theorem eq_or_exists_of_mem_joinWith
    {separator c : Char}
    {parts : List (List Char)}
    (member : c ∈ joinWith separator parts) :
    c = separator ∨ ∃ part ∈ parts, c ∈ part := by
  cases parts with
  | nil => cases member
  | cons part rest =>
      rw [joinWith_cons, List.mem_append] at member
      rcases member with first | others
      · exact .inr ⟨part, List.mem_cons_self, first⟩
      · obtain ⟨other, inRest, member⟩ := List.mem_flatMap.mp others
        rcases List.mem_cons.mp member with separates | member
        · exact .inl separates
        · exact .inr ⟨other, List.mem_cons_of_mem part inRest, member⟩

/-- Two texts differ at most behind all the separators in them. -/
def DifferBehind (separator : Char) (s t : List Char) : Prop :=
  ∃ before left right,
    s = before ++ left ∧ t = before ++ right ∧ separator ∉ left ∧ separator ∉ right

theorem DifferBehind.self (separator : Char) (s : List Char) : DifferBehind separator s s :=
  ⟨s, [], [], by simp, by simp, List.not_mem_nil, List.not_mem_nil⟩

theorem DifferBehind.eq_and_eq
    {separator : Char}
    {s t : List Char}
    (differ : DifferBehind separator s t)
    {rest rest' : List Char}
    (same : s ++ separator :: rest = t ++ separator :: rest') :
    s = t ∧ rest = rest' := by
  obtain ⟨before, left, right, rfl, rfl, leftAbsent, rightAbsent⟩ := differ
  rw [List.append_assoc, List.append_assoc, List.append_cancel_left_eq] at same
  have cut := congrArg (cutAt separator) same
  rw [cutAt_append rest leftAbsent, cutAt_append rest' rightAbsent] at cut
  cases cut
  exact ⟨rfl, rfl⟩

/-- Parts that differ at most behind their separators are joined into the same text
only if they are the same. -/
theorem forall_eq_of_joinWith_map_eq
    {α : Type}
    {separator : Char}
    {f g : α → List Char}
    {items : List α}
    (differ : ∀ item ∈ items, DifferBehind separator (f item) (g item))
    (same : joinWith separator (items.map f) = joinWith separator (items.map g)) :
    ∀ item ∈ items, f item = g item := by
  induction items with
  | nil => simp
  | cons item rest inductionHypothesis =>
      obtain ⟨first, others⟩ := List.forall_mem_cons.mp differ
      cases rest with
      | nil => simpa [joinWith] using same
      | cons next more =>
          obtain ⟨same, further⟩ := first.eq_and_eq same
          exact List.forall_mem_cons.mpr ⟨same, inductionHypothesis others further⟩

theorem splitAt_ne_nil (separator : Char) (s : List Char) : splitAt separator s ≠ [] := by
  cases s with
  | nil => simp [splitAt]
  | cons c rest =>
      rw [splitAt]
      split
      · simp
      · split <;> simp

/-- Joining the parts of a text gives the text back. -/
theorem joinWith_splitAt (separator : Char) (s : List Char) :
    joinWith separator (splitAt separator s) = s := by
  induction s with
  | nil => rfl
  | cons c rest inductionHypothesis =>
      rw [splitAt]
      cases parts : splitAt separator rest with
      | nil => exact absurd parts (splitAt_ne_nil separator rest)
      | cons part more =>
          rw [parts] at inductionHypothesis
          split
          · next separates =>
              rw [joinWith, inductionHypothesis, eq_of_beq separates, List.nil_append]
          · rw [joinWith_cons] at inductionHypothesis ⊢
            rw [List.cons_append, inductionHypothesis]

/-- A part without the separator is cut off at the separator behind it. -/
theorem splitAt_append
    {separator : Char}
    {part : List Char}
    (absent : separator ∉ part)
    (rest : List Char) :
    splitAt separator (part ++ separator :: rest) = part :: splitAt separator rest := by
  induction part with
  | nil => simp [splitAt]
  | cons c more inductionHypothesis =>
      rw [List.mem_cons, not_or] at absent
      have different : ¬(c == separator) = true := by simpa using Ne.symm absent.1
      rw [List.cons_append, splitAt, if_neg different, inductionHypothesis absent.2]

theorem splitAt_of_not_mem
    {separator : Char}
    {part : List Char}
    (absent : separator ∉ part) :
    splitAt separator part = [part] := by
  induction part with
  | nil => rfl
  | cons c more inductionHypothesis =>
      rw [List.mem_cons, not_or] at absent
      have different : ¬(c == separator) = true := by simpa using Ne.symm absent.1
      rw [splitAt, if_neg different, inductionHypothesis absent.2]

/-- Parts without the separator come back from the text that they were joined
into. -/
theorem splitAt_joinWith
    {separator : Char}
    {parts : List (List Char)}
    (some : parts ≠ [])
    (absent : ∀ part ∈ parts, separator ∉ part) :
    splitAt separator (joinWith separator parts) = parts := by
  induction parts with
  | nil => exact absurd rfl some
  | cons part rest inductionHypothesis =>
      obtain ⟨first, others⟩ := List.forall_mem_cons.mp absent
      cases rest with
      | nil => exact splitAt_of_not_mem first
      | cons next more =>
          rw [joinWith, splitAt_append first, inductionHypothesis (by simp) others]

/-! ## Ends -/

/-- What is dropped from the end of a text satisfies the predicate. -/
theorem exists_eq_dropEndWhile_append (p : Char → Bool) (s : List Char) :
    ∃ dropped, s = dropEndWhile p s ++ dropped ∧ ∀ c ∈ dropped, p c = true := by
  refine ⟨(s.reverse.takeWhile p).reverse, ?_, fun c member => ?_⟩
  · rw [dropEndWhile, ← List.reverse_append, List.takeWhile_append_dropWhile, List.reverse_reverse]
  · exact List.mem_takeWhile_imp (List.mem_reverse.mp member)

/-- What satisfies the predicate throughout is dropped from the end. -/
theorem dropEndWhile_append_of_all
    {p : Char → Bool}
    {dropped : List Char}
    (all : ∀ c ∈ dropped, p c = true)
    (s : List Char) :
    dropEndWhile p (s ++ dropped) = dropEndWhile p s := by
  have reversed : ∀ c ∈ dropped.reverse, p c = true :=
    fun c member => all c (List.mem_reverse.mp member)
  rw [dropEndWhile, List.reverse_append, List.dropWhile_append_of_pos reversed, dropEndWhile]

/-- What is kept does not end with a character that is dropped. -/
theorem getLast?_dropEndWhile
    {p : Char → Bool}
    {s : List Char}
    {c : Char}
    (last : (dropEndWhile p s).getLast? = some c) :
    p c = false := by
  rw [dropEndWhile, List.getLast?_reverse] at last
  have stops := List.head?_dropWhile_not p s.reverse
  rw [last] at stops
  simpa using stops

/-- What is kept is a beginning of the text. -/
theorem isPrefix_dropEndWhile (p : Char → Bool) (s : List Char) : dropEndWhile p s <+: s := by
  obtain ⟨dropped, whole, -⟩ := exists_eq_dropEndWhile_append p s
  exact ⟨dropped, whole.symm⟩

/-- The second text is the first one without the blanks at its start and at its end. -/
structure IsTrimmed (s t : List Char) : Prop where
  whole : ∃ before after,
    s = before ++ t ++ after ∧ ∀ c ∈ before ++ after, isBlank c = true
  start : ∀ c ∈ t.head?, isBlank c = false
  finish : ∀ c ∈ t.getLast?, isBlank c = false

theorem isTrimmed_trim (s : List Char) : IsTrimmed s (trim s) := by
  obtain ⟨after, whole, afterBlank⟩ := exists_eq_dropEndWhile_append isBlank (trimStart s)
  refine ⟨⟨s.takeWhile isBlank, after, ?_, ?_⟩, ?_, fun c last => getLast?_dropEndWhile last⟩
  · rw [trim, List.append_assoc, ← whole]
    exact List.takeWhile_append_dropWhile.symm
  · intro c member
    rcases List.mem_append.mp member with before | after
    · exact List.mem_takeWhile_imp before
    · exact afterBlank c after
  · intro c first
    have kept : [c] <+: trim s := List.singleton_prefix_iff_head?_eq_some.mpr first
    have leading := kept.trans (isPrefix_dropEndWhile isBlank (trimStart s))
    have stops := List.head?_dropWhile_not isBlank s
    rw [← trimStart, List.singleton_prefix_iff_head?_eq_some.mp leading] at stops
    simpa using stops

/-! ## Replacement -/

/-- A character that is replaced by another one is gone. -/
theorem not_mem_replaceChar
    {old new : Char}
    (different : new ≠ old)
    (s : List Char) :
    old ∉ replaceChar old new s := by
  intro member
  obtain ⟨c, -, replaced⟩ := List.mem_map.mp member
  by_cases isOld : c = old
  · rw [if_pos (by simpa using isOld)] at replaced
    exact different replaced
  · rw [if_neg (by simpa using isOld)] at replaced
    exact isOld replaced

/-- Replacing a character and then its replacement gives the text back, unless
the text held the replacement. -/
theorem replaceChar_replaceChar
    {old new : Char}
    {s : List Char}
    (absent : new ∉ s) :
    replaceChar new old (replaceChar old new s) = s := by
  rw [replaceChar, replaceChar, List.map_map]
  refine Eq.trans (List.map_congr_left fun c member => ?_) (List.map_id s)
  have different : c ≠ new := fun same => absent (same ▸ member)
  by_cases isOld : c = old
  · simp [isOld]
  · simp [isOld, different]

/-! ## Quoted texts -/

theorem resolveEscapes_cons_of_ne
    {c : Char}
    (plain : c ≠ '\\')
    (rest : List Char) :
    resolveEscapes (c :: rest) = c :: resolveEscapes rest := by
  cases rest with
  | nil => simp [resolveEscapes, plain]
  | cons next more => simp [resolveEscapes, plain]

/-- Resolving undoes escaping. -/
theorem resolveEscapes_escapeQuotes (s : List Char) :
    resolveEscapes (escapeQuotes s) = s := by
  induction s with
  | nil => rfl
  | cons c rest inductionHypothesis =>
      by_cases escaped : c == '\\' || c == '"'
      · rw [escapeQuotes, if_pos escaped, resolveEscapes, if_pos (by decide),
          inductionHypothesis]
      · have plain : c ≠ '\\' := by
          rintro rfl
          exact escaped rfl
        rw [escapeQuotes, if_neg escaped, resolveEscapes_cons_of_ne plain,
          inductionHypothesis]

/-- A quoted text stands for the text that was quoted. -/
theorem unquote?_quote (s : List Char) : unquote? (quote s) = some s := by
  rw [unquote?, quote, enclosed?_enclose, Option.map_some, resolveEscapes_escapeQuotes]

/-- A text that starts with another character than a double quote is not
quoted. -/
theorem unquote?_of_head?_ne
    {s : List Char}
    (unquoted : s.head? ≠ some '"') :
    unquote? s = none := by
  cases s with
  | nil => rfl
  | cons c rest =>
      have different : c ≠ '"' := fun same => unquoted (by rw [same, List.head?_cons])
      simp [unquote?, enclosed?, different]

end Text
end RestQuery
