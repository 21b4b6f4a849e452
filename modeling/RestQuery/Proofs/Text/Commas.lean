import Mathlib.Data.List.Induction
import RestQuery.Proofs.Text.Pieces

/-!
# The commas at which a list is cut

Which commas end an item can be told without a scan. A text stands outside quotes at
its end when it is made of bare characters and of quoted pieces that are closed, where
a backslash inside a piece takes the next character with it. A comma behind such a text
ends an item when the bare characters have as many closing as opening brackets, in
whatever order. Brackets without a partner, a quote that stays open and a backslash at
the end are no exceptions.

The scan is followed character by character: each of its states tells which shape the
text so far has. Main statement: joining the items gives the list back, only the empty
text has no items, and the list is cut at exactly those commas. One pass over the bytes
of the list, by offsets, cuts out the bytes of the same items.
-/

namespace RestQuery
namespace Text

/-! ## Bare characters and quoted pieces -/

/-- What can stand behind a quote that is still open: characters other than a backslash
and a quote, and backslashes, each with the character behind it. -/
inductive IsQuotable : List Char → Prop
  | nil : IsQuotable []
  | plain
      {s : List Char}
      {c : Char} :
      IsQuotable s → c ≠ '\\' → c ≠ '"' → IsQuotable (s ++ [c])
  | escaped
      {s : List Char}
      {c : Char} :
      IsQuotable s → IsQuotable (s ++ ['\\', c])

/-- The text stands outside quotes at its end, and the second text is what it has
outside quotes. -/
inductive HasBare : List Char → List Char → Prop
  | nil : HasBare [] []
  | char
      {s bare : List Char}
      {c : Char} :
      HasBare s bare → c ≠ '"' → HasBare (s ++ [c]) (bare ++ [c])
  | quoted
      {s bare inner : List Char} :
      HasBare s bare → IsQuotable inner → HasBare (s ++ '"' :: inner ++ ['"']) bare

/-- The text stands outside quotes at its end, and has as many closing as opening
brackets outside quotes. -/
def EndsAtTop (s : List Char) : Prop :=
  ∃ bare, HasBare s bare ∧ bare.countP isOpening = bare.countP isClosing

/-- The opening brackets of a text less its closing ones. -/
def surplus (s : List Char) : Int := s.countP isOpening - s.countP isClosing

theorem surplus_eq_zero_iff (s : List Char) :
    surplus s = 0 ↔ s.countP isOpening = s.countP isClosing := by
  rw [surplus]
  omega

/-! ## What the scan has read -/

theorem isClosing_of_isOpening
    {c : Char}
    (opening : isOpening c = true) :
    isClosing c = false := by
  simp only [isOpening, Bool.or_eq_true, beq_iff_eq] at opening
  rcases opening with (rfl | rfl) | rfl <;> rfl

theorem surplus_append (s t : List Char) : surplus (s ++ t) = surplus s + surplus t := by
  simp only [surplus, List.countP_append]
  omega

/-- Outside quotes the depth of the scan is the surplus of what it has read there. -/
theorem step_outside_surplus
    {c : Char}
    (noQuote : c ≠ '"')
    (bare : List Char) :
    (Scan.outside (surplus bare)).step c = Scan.outside (surplus (bare ++ [c])) := by
  rw [surplus_append]
  by_cases opening : isOpening c = true
  · have one : surplus [c] = 1 := by
      simp [surplus, opening, isClosing_of_isOpening opening]
    rw [step_outside_of_isOpening opening, one]
  · by_cases closing : isClosing c = true
    · have one : surplus [c] = -1 := by simp [surplus, opening, closing]
      rw [step_outside_of_isClosing closing, one, Int.sub_eq_add_neg]
    · have zero : surplus [c] = 0 := by simp [surplus, opening, closing]
      have plain : isMark c = false := by simp [isMark, opening, closing, noQuote]
      rw [step_outside_of_isMark_eq_false plain, zero, Int.add_zero]

/-- The three states of a scan that started at the top, and the shape of the text that
leads to each: all its quotes are closed, one is open, or one is open and a backslash
waits for its character. -/
inductive HasRead : Scan → List Char → Prop
  | outside
      {s bare : List Char} :
      HasBare s bare → HasRead (.outside (surplus bare)) s
  | inside
      {s bare inner : List Char} :
      HasBare s bare → IsQuotable inner →
      HasRead (.inside (surplus bare)) (s ++ '"' :: inner)
  | escaping
      {s bare inner : List Char} :
      HasBare s bare → IsQuotable inner →
      HasRead ⟨surplus bare, true, true⟩ (s ++ '"' :: inner ++ ['\\'])

/-- One more character leads to the state that belongs to the longer text. -/
theorem HasRead.step
    {scan : Scan}
    {s : List Char}
    (read : HasRead scan s)
    (c : Char) :
    HasRead (scan.step c) (s ++ [c]) := by
  cases read with
  | outside hasBare =>
      by_cases isQuote : c = '"'
      · subst isQuote
        exact .inside hasBare .nil
      · rw [step_outside_surplus isQuote]
        exact .outside (.char hasBare isQuote)
  | @inside before bare inner hasBare quotable =>
      by_cases backslash : c = '\\'
      · subst backslash
        exact .escaping hasBare quotable
      · by_cases isQuote : c = '"'
        · subst isQuote
          exact .outside (.quoted hasBare quotable)
        · have still : (Scan.inside (surplus bare)).step c = .inside (surplus bare) :=
            (loops_inside_of_ne backslash isQuote (surplus bare)).2
          rw [still, List.append_assoc, List.cons_append]
          exact .inside hasBare (.plain quotable backslash isQuote)
  | @escaping before bare inner hasBare quotable =>
      have sameText : before ++ '"' :: inner ++ ['\\'] ++ [c] =
          before ++ '"' :: (inner ++ ['\\', c]) := by
        simp
      rw [sameText]
      exact .inside hasBare (.escaped quotable)

/-- The state after a text belongs to the text, whatever is left open in it. -/
theorem hasRead_run (s : List Char) : HasRead (({} : Scan).run s) s := by
  induction s using List.reverseRecOn with
  | nil => exact .outside .nil
  | append_singleton s c inductionHypothesis =>
      rw [Scan.run_append]
      exact inductionHypothesis.step c

theorem IsQuotable.loops_inside
    {s : List Char}
    (quotable : IsQuotable s)
    (depth : Int) :
    (Scan.inside depth).Loops s := by
  induction quotable with
  | nil => exact .nil _
  | plain _ noBackslash noQuote inductionHypothesis =>
      exact .append inductionHypothesis (loops_inside_of_ne noBackslash noQuote depth)
  | escaped _ inductionHypothesis =>
      exact .append inductionHypothesis (loops_inside_escape _ depth)

theorem HasBare.run_eq
    {s bare : List Char}
    (hasBare : HasBare s bare) :
    ({} : Scan).run s = .outside (surplus bare) := by
  induction hasBare with
  | nil => rfl
  | char _ noQuote inductionHypothesis =>
      rw [Scan.run_append, inductionHypothesis]
      exact step_outside_surplus noQuote _
  | @quoted before bare inner _ quotable inductionHypothesis =>
      rw [Scan.run_append, Scan.run_append, inductionHypothesis, Scan.run_cons _ '"' inner,
        step_outside_quote, (quotable.loops_inside _).2]
      rfl

/-- The scan stands at the top exactly behind the texts that end there. -/
theorem atTop_run_iff (s : List Char) :
    (({} : Scan).run s).atTop = true ↔ EndsAtTop s := by
  rw [Scan.atTop_iff]
  constructor
  · intro top
    have read := hasRead_run s
    rw [top] at read
    generalize start : ({} : Scan) = scan at read
    cases read with
    | outside hasBare =>
        exact ⟨_, hasBare, (surplus_eq_zero_iff _).mp (congrArg Scan.depth start).symm⟩
    | inside => cases congrArg Scan.quoted start
    | escaping => cases congrArg Scan.quoted start
  · rintro ⟨bare, hasBare, balanced⟩
    rw [hasBare.run_eq, (surplus_eq_zero_iff bare).mpr balanced]
    rfl

/-! ## Where a list is cut -/

/-- What stands in front of each separator that joins two of the parts. -/
def fronts (separator : Char) : List (List Char) → List (List Char)
  | part :: next :: parts =>
      part :: (fronts separator (next :: parts)).map (part ++ separator :: ·)
  | _ => []

theorem fronts_nil_cons
    (separator : Char)
    {parts : List (List Char)}
    (some : parts ≠ []) :
    fronts separator ([] :: parts) = [] :: (fronts separator parts).map (separator :: ·) := by
  cases parts with
  | nil => exact absurd rfl some
  | cons part rest => rfl

theorem fronts_consToFirst
    (separator c : Char)
    {parts : List (List Char)}
    (some : parts ≠ []) :
    fronts separator (consToFirst c parts) = (fronts separator parts).map (c :: ·) := by
  cases parts with
  | nil => exact absurd rfl some
  | cons part rest =>
      cases rest with
      | nil => rfl
      | cons next more =>
          rw [consToFirst, fronts, fronts, List.map_cons, List.map_map]
          rfl

/-- A character adds a cut in front of it when it is a comma at the top, and stands in
front of all later cuts. -/
theorem fronts_splitFrom_cons
    (scan : Scan)
    (c : Char)
    (rest : List Char) :
    fronts ',' (splitFrom scan (c :: rest)) =
      (if c == ',' && scan.atTop then [[]] else []) ++
        (fronts ',' (splitFrom (scan.step c) rest)).map (c :: ·) := by
  rw [splitFrom]
  by_cases cut : (c == ',' && scan.atTop) = true
  · obtain ⟨rfl, rfl⟩ := (Scan.cuts_iff scan c).mp cut
    rw [if_pos cut, if_pos cut, fronts_nil_cons ',' (splitFrom_ne_nil {} rest)]
    -- A comma at the top leaves the scan as it is.
    rfl
  · rw [if_neg cut, if_neg cut, fronts_consToFirst ',' c (splitFrom_ne_nil _ rest)]
    rfl

/-- The splitter cuts behind a text exactly when a comma follows and the scan stands at
the top there. -/
theorem mem_fronts_splitFrom_iff
    (scan : Scan)
    (s front : List Char) :
    front ∈ fronts ',' (splitFrom scan s) ↔
      ∃ rest, s = front ++ ',' :: rest ∧ (scan.run front).atTop = true := by
  induction s generalizing scan front with
  | nil => simp [splitFrom, fronts]
  | cons c more inductionHypothesis =>
      rw [fronts_splitFrom_cons, List.mem_append, List.mem_map]
      cases front with
      | nil => by_cases cut : c = ',' ∧ scan.atTop = true <;> simp [cut]
      | cons d front =>
          -- Only a cut at the very start has nothing in front of it.
          have later : d :: front ∉ if c == ',' && scan.atTop then [[]] else [] := by
            split <;> simp
          rw [or_iff_right later]
          constructor
          · rintro ⟨before, member, same⟩
            obtain ⟨rfl, rfl⟩ := List.cons.inj same
            obtain ⟨rest, rfl, top⟩ := (inductionHypothesis _ _).mp member
            exact ⟨rest, rfl, top⟩
          · rintro ⟨rest, same, top⟩
            obtain ⟨rfl, rfl⟩ := List.cons.inj same
            exact ⟨front, (inductionHypothesis _ _).mpr ⟨rest, rfl, top⟩, rfl⟩

theorem splitTopLevel_eq_nil_iff (s : List Char) : splitTopLevel s = [] ↔ s = [] := by
  cases s with
  | nil => simp [splitTopLevel]
  | cons c rest => simpa [splitTopLevel] using splitFrom_ne_nil {} (c :: rest)

/-- A text is cut at the commas in front of which it ends at the top. -/
theorem mem_fronts_splitTopLevel_iff (s front : List Char) :
    front ∈ fronts ',' (splitTopLevel s) ↔
      ∃ rest, s = front ++ ',' :: rest ∧ EndsAtTop front := by
  cases s with
  | nil => simp [splitTopLevel, fronts]
  | cons c rest =>
      simp only [← atTop_run_iff]
      exact mem_fronts_splitFrom_iff {} (c :: rest) front

/-- Splitting loses nothing, only the empty text has no items, and a text is cut at the
commas in front of which it ends at the top, and nowhere else. The pieces that one pass
over the bytes cuts out are the bytes of the items. -/
theorem joinWith_splitTopLevel_and_mem_fronts_iff (s : List Char) :
    joinWith ',' (splitTopLevel s) = s ∧
      (splitTopLevel s = [] ↔ s = []) ∧
      (∀ front, front ∈ fronts ',' (splitTopLevel s) ↔
        ∃ rest, s = front ++ ',' :: rest ∧ EndsAtTop front) ∧
      pieces s = (splitTopLevel s).map bytes := by
  refine ⟨joinWith_splitTopLevel s, splitTopLevel_eq_nil_iff s, fun front => ?_,
    pieces_eq_map_bytes s⟩
  exact mem_fronts_splitTopLevel_iff s front

-- Brackets in the wrong order even out, and a quote that stays open keeps its commas.
example :
    splitTopLevel [')', '(', ',', '"', ',', '\\'] = [[')', '('], ['"', ',', '\\']] := rfl

end Text
end RestQuery
