import RestQuery.Proofs.Text.Cutting
import RestQuery.Text.TopLevel

/-!
# Texts that close what they open

The splitter of lists remembers the open brackets and the open quote. A text is
an item of its own when the splitter, having read it, stands where it stood
before and met no comma at the top on the way. Such texts are closed under
juxtaposition, under brackets and under commas inside brackets, and a quoted
text is always one.

Main statement: texts joined by commas are split into themselves exactly when
every text but the last is an item of its own and the last one has no comma at
the top.
-/

namespace RestQuery
namespace Text

namespace Scan

/-- The scan after a text. -/
def run (scan : Scan) (s : List Char) : Scan := s.foldl step scan

/-- A text that is read from here on has no comma at the top. -/
def Passes (scan : Scan) : List Char → Prop
  | [] => True
  | c :: rest => ¬(c = ',' ∧ scan.atTop = true) ∧ (scan.step c).Passes rest

/-- A text has no comma at the top and leaves the scan where it was. -/
def Loops (scan : Scan) (s : List Char) : Prop :=
  scan.Passes s ∧ scan.run s = scan

/-- The scan outside quotes with so many open brackets. -/
def outside (depth : Int) : Scan := ⟨depth, false, false⟩

/-- The scan inside quotes with so many open brackets. -/
def inside (depth : Int) : Scan := ⟨depth, true, false⟩

@[simp] theorem run_nil (scan : Scan) : scan.run [] = scan := rfl

@[simp] theorem run_cons (scan : Scan) (c : Char) (rest : List Char) :
    scan.run (c :: rest) = (scan.step c).run rest := rfl

theorem run_append (scan : Scan) (s t : List Char) :
    scan.run (s ++ t) = (scan.run s).run t :=
  List.foldl_append

@[simp] theorem passes_nil (scan : Scan) : scan.Passes [] := trivial

theorem passes_cons
    (scan : Scan)
    (c : Char)
    (rest : List Char) :
    scan.Passes (c :: rest) ↔
      ¬(c = ',' ∧ scan.atTop = true) ∧ (scan.step c).Passes rest :=
  Iff.rfl

theorem passes_append
    (scan : Scan)
    (s t : List Char) :
    scan.Passes (s ++ t) ↔ scan.Passes s ∧ (scan.run s).Passes t := by
  induction s generalizing scan with
  | nil => simp
  | cons c rest inductionHypothesis =>
      rw [List.cons_append, passes_cons, passes_cons, inductionHypothesis, run_cons,
        and_assoc]

/-- A text without commas has none at the top. -/
theorem passes_of_not_mem
    {s : List Char}
    (absent : ',' ∉ s)
    (scan : Scan) :
    scan.Passes s := by
  induction s generalizing scan with
  | nil => trivial
  | cons c rest inductionHypothesis =>
      rw [List.mem_cons, not_or] at absent
      exact ⟨fun found => absent.1 found.1.symm, inductionHypothesis absent.2 _⟩

/-- Only one scan is at the top. -/
theorem atTop_iff (scan : Scan) : scan.atTop = true ↔ scan = {} := by
  rcases scan with ⟨depth, quoted, escaped⟩
  cases quoted <;> cases escaped <;> simp [atTop]

/-- Only a comma that is met at the top ends an item. -/
theorem cuts_iff (scan : Scan) (c : Char) :
    (c == ',' && scan.atTop) = true ↔ c = ',' ∧ scan = {} := by
  rw [Bool.and_eq_true, beq_iff_eq, atTop_iff]

theorem Loops.nil (scan : Scan) : scan.Loops [] := ⟨trivial, rfl⟩

theorem Loops.append
    {scan : Scan}
    {s t : List Char}
    (first : scan.Loops s)
    (second : scan.Loops t) :
    scan.Loops (s ++ t) := by
  refine ⟨(passes_append scan s t).mpr ⟨first.1, ?_⟩, ?_⟩
  · rw [first.2]
    exact second.1
  · rw [run_append, first.2, second.2]

theorem Loops.flatMap
    {α : Type}
    {scan : Scan}
    {f : α → List Char}
    {xs : List α}
    (each : ∀ x ∈ xs, scan.Loops (f x)) :
    scan.Loops (xs.flatMap f) := by
  induction xs with
  | nil => exact .nil scan
  | cons x rest inductionHypothesis =>
      rw [List.flatMap_cons]
      refine .append (each x List.mem_cons_self) (inductionHypothesis ?_)
      exact fun y member => each y (List.mem_cons_of_mem x member)

/-- In front of a text that loops, what follows decides. -/
theorem Loops.passes_append_iff
    {scan : Scan}
    {s : List Char}
    (loops : scan.Loops s)
    (t : List Char) :
    scan.Passes (s ++ t) ↔ scan.Passes t := by
  rw [passes_append, loops.2, and_iff_right loops.1]

/-- In front of a text that loops, what follows decides. -/
theorem Loops.loops_append_iff
    {scan : Scan}
    {s : List Char}
    (loops : scan.Loops s)
    (t : List Char) :
    scan.Loops (s ++ t) ↔ scan.Loops t := by
  rw [Loops, Loops, loops.passes_append_iff, run_append, loops.2]

/-- Replacing characters that the scan does not tell apart changes nothing for
it. -/
theorem loops_map_iff
    {f : Char → Char}
    (sameStep : ∀ (scan : Scan) c, scan.step (f c) = scan.step c)
    (sameComma : ∀ c, f c = ',' ↔ c = ',')
    (scan : Scan)
    (s : List Char) :
    scan.Loops (s.map f) ↔ scan.Loops s := by
  have samePasses : ∀ scan : Scan, scan.Passes (s.map f) ↔ scan.Passes s := by
    induction s with
    | nil => exact fun _ => Iff.rfl
    | cons c rest inductionHypothesis =>
        intro scan
        rw [List.map_cons, passes_cons, passes_cons, sameStep, sameComma, inductionHypothesis]
  have sameRun : scan.run (s.map f) = scan.run s := by
    rw [run, run, List.foldl_map]
    congr 1
    funext scan c
    exact sameStep scan c
  rw [Loops, Loops, samePasses, sameRun]

end Scan

/-! ## Characters that the scan looks at -/

/-- The character opens a bracket. -/
def isOpening (c : Char) : Bool := c == '(' || c == '[' || c == '\x7b'

/-- The character closes a bracket. -/
def isClosing (c : Char) : Bool := c == ')' || c == ']' || c == '\x7d'

/-- The character is a bracket or a double quote. -/
def isMark (c : Char) : Bool := isOpening c || isClosing c || c == '"'

theorem step_outside_of_isMark_eq_false
    {c : Char}
    (plain : isMark c = false)
    (depth : Int) :
    (Scan.outside depth).step c = Scan.outside depth := by
  simp only [isMark, isOpening, isClosing, Bool.or_eq_false_iff, beq_eq_false_iff_ne] at plain
  simp [Scan.step, Scan.outside, plain]

theorem step_outside_of_isOpening
    {c : Char}
    (opening : isOpening c = true)
    (depth : Int) :
    (Scan.outside depth).step c = Scan.outside (depth + 1) := by
  simp only [isOpening, Bool.or_eq_true, beq_iff_eq] at opening
  rcases opening with (rfl | rfl) | rfl <;> rfl

theorem step_outside_of_isClosing
    {c : Char}
    (closing : isClosing c = true)
    (depth : Int) :
    (Scan.outside depth).step c = Scan.outside (depth - 1) := by
  simp only [isClosing, Bool.or_eq_true, beq_iff_eq] at closing
  rcases closing with (rfl | rfl) | rfl <;> rfl

@[simp] theorem step_outside_quote (depth : Int) :
    (Scan.outside depth).step '"' = Scan.inside depth := rfl

@[simp] theorem step_inside_quote (depth : Int) :
    (Scan.inside depth).step '"' = Scan.outside depth := rfl

/-- Inside quotes nothing but a backslash and a double quote is looked at. -/
theorem loops_inside_of_ne
    {c : Char}
    (noBackslash : c ≠ '\\')
    (noQuote : c ≠ '"')
    (depth : Int) :
    (Scan.inside depth).Loops [c] := by
  refine ⟨⟨?_, trivial⟩, ?_⟩
  · simp [Scan.atTop, Scan.inside]
  · simp [Scan.step, Scan.inside, noBackslash, noQuote]

/-- Inside quotes a backslash takes the next character out of account. -/
theorem loops_inside_escape (c : Char) (depth : Int) :
    (Scan.inside depth).Loops ['\\', c] := by
  refine ⟨⟨?_, ?_, trivial⟩, rfl⟩ <;> simp [Scan.atTop, Scan.inside, Scan.step]

/-! ## Closed texts -/

/-- Wherever at least `least` brackets are open, the text closes what it opens
and has no comma at the top. -/
def Closed (least : Int) (s : List Char) : Prop :=
  ∀ depth, least ≤ depth → (Scan.outside depth).Loops s

namespace Closed

variable {least : Int} {s t : List Char}

/-- A closed text is an item of its own. -/
theorem loops (closed : Closed 0 s) : ({} : Scan).Loops s := closed 0 (Int.le_refl 0)

theorem mono
    {least' : Int}
    (le : least ≤ least')
    (closed : Closed least s) :
    Closed least' s :=
  fun depth bound => closed depth (Int.le_trans le bound)

theorem nil : Closed least [] := fun depth _ => .nil (.outside depth)

theorem append
    (first : Closed least s)
    (second : Closed least t) :
    Closed least (s ++ t) :=
  fun depth bound => .append (first depth bound) (second depth bound)

/-- A closed text behind a character without meaning is closed. -/
theorem cons
    {c : Char}
    (plain : isMark c = false)
    (noComma : c ≠ ',')
    (closed : Closed least s) :
    Closed least (c :: s) := by
  intro depth bound
  have step := step_outside_of_isMark_eq_false plain depth
  refine ⟨⟨fun found => noComma found.1, ?_⟩, ?_⟩
  · rw [step]
    exact (closed depth bound).1
  · rw [Scan.run_cons, step, (closed depth bound).2]

/-- A text without brackets, quotes and commas is closed. -/
theorem of_plain
    (plain : ∀ c ∈ s, isMark c = false ∧ c ≠ ',') :
    Closed least s := by
  induction s with
  | nil => exact nil
  | cons c rest inductionHypothesis =>
      obtain ⟨noMark, noComma⟩ := plain c List.mem_cons_self
      refine cons noMark noComma (inductionHypothesis ?_)
      exact fun d member => plain d (List.mem_cons_of_mem c member)

/-- That a text is plain can be checked on its characters. -/
theorem of_all
    (plain : (s.all fun c => !isMark c && c != ',') = true) :
    Closed least s :=
  of_plain fun c member => by simpa using List.all_eq_true.mp plain c member

/-- That a text is plain can be checked on the characters with a meaning. -/
theorem of_avoids
    (avoids : ∀ c ∈ [',', '(', ')', '[', ']', '\x7b', '\x7d', '"'], c ∉ s) :
    Closed least s := by
  refine of_plain fun c member => ?_
  have different : ∀ d ∈ [',', '(', ')', '[', ']', '\x7b', '\x7d', '"'], c ≠ d := by
    rintro d listed rfl
    exact avoids c listed member
  simp only [List.forall_mem_cons] at different
  simp [isMark, isOpening, isClosing, different]

/-- Inside a bracket a comma is no longer at the top. -/
theorem comma : Closed 1 [','] := by
  intro depth bound
  refine ⟨⟨fun found => ?_, trivial⟩, rfl⟩
  have top := (Scan.atTop_iff _).mp found.2
  have : depth = 0 := congrArg Scan.depth top
  omega

/-- What is closed one level deeper is closed between brackets. -/
theorem enclose
    {opening closing : Char}
    (opens : isOpening opening = true)
    (closes : isClosing closing = true)
    (closed : Closed (least + 1) s) :
    Closed least (opening :: s ++ [closing]) := by
  intro depth bound
  have deeper := closed (depth + 1) (by omega)
  have noComma : opening ≠ ',' ∧ closing ≠ ',' := by
    constructor <;> rintro rfl <;> simp [isOpening, isClosing] at opens closes
  have closeStep : (Scan.outside (depth + 1)).step closing = Scan.outside depth := by
    rw [step_outside_of_isClosing closes, Int.add_sub_cancel]
  have openStep := step_outside_of_isOpening opens depth
  refine ⟨⟨fun found => noComma.1 found.1, ?_⟩, ?_⟩
  · rw [openStep]
    refine (deeper.passes_append_iff _).mpr ⟨fun found => noComma.2 found.1, trivial⟩
  · rw [List.cons_append, Scan.run_cons, openStep, Scan.run_append, deeper.2,
      Scan.run_cons, closeStep, Scan.run_nil]

/-- What loops inside quotes is closed between them. -/
theorem enquote
    (loops : ∀ depth, (Scan.inside depth).Loops s) :
    Closed least ('"' :: s ++ ['"']) := by
  intro depth _
  refine ⟨⟨fun found => absurd found.1 (by decide), ?_⟩, ?_⟩
  · rw [step_outside_quote]
    refine ((loops depth).passes_append_iff _).mpr ⟨fun found => ?_, trivial⟩
    exact absurd found.1 (by decide)
  · rw [List.cons_append, Scan.run_cons, step_outside_quote, Scan.run_append,
      (loops depth).2, Scan.run_cons, step_inside_quote, Scan.run_nil]

/-- Closed texts with commas between them are closed inside a bracket. -/
theorem joinWith
    {parts : List (List Char)}
    (each : ∀ part ∈ parts, Closed 1 part) :
    Closed 1 (joinWith ',' parts) := by
  induction parts with
  | nil => exact nil
  | cons part rest inductionHypothesis =>
      have partClosed := each part List.mem_cons_self
      cases rest with
      | nil => exact partClosed
      | cons next more =>
          have restClosed := inductionHypothesis
            fun other member => each other (List.mem_cons_of_mem part member)
          exact append partClosed (append comma restClosed)

end Closed

theorem loops_inside_escapeQuotes (s : List Char) (depth : Int) :
    (Scan.inside depth).Loops (escapeQuotes s) := by
  induction s with
  | nil => exact .nil _
  | cons c rest inductionHypothesis =>
      by_cases escaped : c == '\\' || c == '"'
      · rw [escapeQuotes, if_pos escaped]
        exact .append (loops_inside_escape c depth) inductionHypothesis
      · rw [escapeQuotes, if_neg escaped]
        simp only [Bool.or_eq_true, beq_iff_eq, not_or] at escaped
        exact .append (loops_inside_of_ne escaped.1 escaped.2 depth) inductionHypothesis

/-- A quoted text is closed, whatever it holds. -/
theorem closed_quote (least : Int) (s : List Char) : Closed least (quote s) :=
  .enquote (loops_inside_escapeQuotes s)

/-! ## Splitting what was joined -/

theorem splitFrom_ne_nil (scan : Scan) (s : List Char) : splitFrom scan s ≠ [] := by
  cases s with
  | nil => simp [splitFrom]
  | cons c rest =>
      rw [splitFrom]
      split
      · simp
      · cases splitFrom (scan.step c) rest <;> simp [consToFirst]

theorem consToFirst_eq_singleton_iff
    {c : Char}
    {s : List Char}
    {parts : List (List Char)}
    (some : parts ≠ []) :
    consToFirst c parts = [c :: s] ↔ parts = [s] := by
  cases parts with
  | nil => exact absurd rfl some
  | cons part rest => simp [consToFirst]

/-- The splitter returns a text as it is exactly when it has no comma at the
top. -/
theorem splitFrom_eq_singleton_iff (scan : Scan) (s : List Char) :
    splitFrom scan s = [s] ↔ scan.Passes s := by
  induction s generalizing scan with
  | nil => simp [splitFrom]
  | cons c rest inductionHypothesis =>
      rw [splitFrom, Scan.passes_cons]
      by_cases cut : c = ',' ∧ scan.atTop = true
      · simp [cut]
      · have inText : ¬((c == ',' && scan.atTop) = true) := by simpa using cut
        rw [if_neg inText, and_iff_right cut, ← inductionHypothesis,
          consToFirst_eq_singleton_iff (splitFrom_ne_nil _ _)]

theorem joinWith_consToFirst
    (c : Char)
    {parts : List (List Char)}
    (some : parts ≠ []) :
    joinWith ',' (consToFirst c parts) = c :: joinWith ',' parts := by
  cases parts with
  | nil => exact absurd rfl some
  | cons part rest => cases rest <;> rfl

/-- Joining what the splitter returns gives the text back. -/
theorem joinWith_splitFrom (scan : Scan) (s : List Char) :
    joinWith ',' (splitFrom scan s) = s := by
  induction s generalizing scan with
  | nil => rfl
  | cons c rest inductionHypothesis =>
      rw [splitFrom]
      split
      · next cut =>
          have comma := ((Scan.cuts_iff scan c).mp cut).1
          rw [joinWith_cons]
          cases shape : splitFrom scan rest with
          | nil => exact absurd shape (splitFrom_ne_nil scan rest)
          | cons part parts =>
              rw [List.flatMap_cons, List.nil_append, List.cons_append, ← joinWith_cons, ← shape,
                inductionHypothesis, comma]
      · rw [joinWith_consToFirst c (splitFrom_ne_nil _ rest), inductionHypothesis]

/-- The splitter returns one part exactly when the text has no comma at the
top. -/
theorem length_splitFrom_eq_one_iff (scan : Scan) (s : List Char) :
    (splitFrom scan s).length = 1 ↔ scan.Passes s := by
  rw [← splitFrom_eq_singleton_iff, List.length_eq_one_iff]
  constructor
  · rintro ⟨part, shape⟩
    have same := joinWith_splitFrom scan s
    rw [shape, joinWith] at same
    rw [shape, same]
  · exact fun shape => ⟨s, shape⟩

/-- The splitter cuts off a text at a comma exactly when the text has no comma
at the top itself and leads to the top. -/
theorem head?_splitFrom_append_iff
    (scan : Scan)
    (s rest : List Char) :
    (splitFrom scan (s ++ ',' :: rest)).head? = some s ↔
      scan.Passes s ∧ (scan.run s).atTop = true := by
  induction s generalizing scan with
  | nil =>
      by_cases top : scan.atTop = true
      · simp [splitFrom, top]
      · cases shape : splitFrom (scan.step ',') rest <;>
          simp [splitFrom, top, shape, consToFirst]
  | cons c more inductionHypothesis =>
      rw [List.cons_append, splitFrom, Scan.passes_cons, Scan.run_cons]
      by_cases cut : c = ',' ∧ scan.atTop = true
      · simp [cut]
      · have inText : ¬((c == ',' && scan.atTop) = true) := by simpa using cut
        rw [if_neg inText, and_iff_right cut, ← inductionHypothesis]
        cases shape : splitFrom (scan.step c) (more ++ ',' :: rest) with
        | nil => exact absurd shape (splitFrom_ne_nil _ _)
        | cons part parts => simp [consToFirst]

/-- Behind the comma that cuts off a text, the splitter starts over. -/
theorem splitFrom_append
    {scan : Scan}
    {s : List Char}
    (passes : scan.Passes s)
    (top : (scan.run s).atTop = true)
    (rest : List Char) :
    splitFrom scan (s ++ ',' :: rest) = s :: splitFrom {} rest := by
  induction s generalizing scan with
  | nil =>
      have start : scan = {} := (Scan.atTop_iff scan).mp top
      rw [List.nil_append, splitFrom, if_pos (by simpa using top), start]
  | cons c more inductionHypothesis =>
      have inText : ¬((c == ',' && scan.atTop) = true) := by
        simpa using passes.1
      rw [List.cons_append, splitFrom, if_neg inText, inductionHypothesis passes.2 top]
      rfl

/-- Every text but the last is an item of its own, and the last one has no
comma at the top. -/
def Separable : List (List Char) → Prop
  | [] => True
  | [part] => ({} : Scan).Passes part
  | part :: next :: rest => ({} : Scan).Loops part ∧ Separable (next :: rest)

theorem Separable.of_loops
    {parts : List (List Char)}
    (each : ∀ part ∈ parts, ({} : Scan).Loops part) :
    Separable parts := by
  induction parts with
  | nil => trivial
  | cons part rest inductionHypothesis =>
      have first := each part List.mem_cons_self
      cases rest with
      | nil => exact first.1
      | cons next more =>
          exact ⟨first, inductionHypothesis
            fun other member => each other (List.mem_cons_of_mem part member)⟩

/-- Texts that can be told apart still can when items of their own take the place of
some of them. -/
theorem Separable.map
    {f : List Char → List Char}
    {parts : List (List Char)}
    (each : ∀ part ∈ parts, f part = part ∨ ({} : Scan).Loops (f part))
    (separable : Separable parts) :
    Separable (parts.map f) := by
  induction parts with
  | nil => trivial
  | cons part rest inductionHypothesis =>
      obtain ⟨first, others⟩ := List.forall_mem_cons.mp each
      cases rest with
      | nil =>
          rcases first with same | loops
          · rw [List.map_singleton, same]
            exact separable
          · exact loops.1
      | cons next more =>
          refine ⟨?_, inductionHypothesis others separable.2⟩
          rcases first with same | loops
          · rw [same]
            exact separable.1
          · exact loops

theorem splitFrom_joinWith_iff
    (part : List Char)
    (rest : List (List Char)) :
    splitFrom {} (joinWith ',' (part :: rest)) = part :: rest ↔
      Separable (part :: rest) := by
  induction rest generalizing part with
  | nil => exact splitFrom_eq_singleton_iff {} part
  | cons next more inductionHypothesis =>
      rw [joinWith, Separable, ← inductionHypothesis]
      constructor
      · intro same
        have cut := (head?_splitFrom_append_iff {} part _).mp (by rw [same, List.head?_cons])
        have start := (Scan.atTop_iff _).mp cut.2
        rw [splitFrom_append cut.1 cut.2] at same
        exact ⟨⟨cut.1, start⟩, (List.cons.inj same).2⟩
      · rintro ⟨loops, same⟩
        rw [splitFrom_append loops.1 ((Scan.atTop_iff _).mpr loops.2), same]

/-- Joining the items of a list gives the list back. -/
theorem joinWith_splitTopLevel (s : List Char) : joinWith ',' (splitTopLevel s) = s := by
  cases s with
  | nil => rfl
  | cons c rest => exact joinWith_splitFrom {} (c :: rest)

/-- Joined texts are split into themselves exactly when they can be told apart.
A single empty text is the one list that is never split into itself. -/
theorem splitTopLevel_joinWith_iff
    {parts : List (List Char)}
    (notBlank : parts ≠ [[]]) :
    splitTopLevel (joinWith ',' parts) = parts ↔ Separable parts := by
  cases parts with
  | nil => simp [joinWith, splitTopLevel, Separable]
  | cons part rest =>
      have someText : (joinWith ',' (part :: rest)).isEmpty = false := by
        cases rest with
        | nil => simpa [joinWith] using notBlank
        | cons next more => simp [joinWith]
      rw [splitTopLevel, someText, if_neg Bool.false_ne_true, splitFrom_joinWith_iff]

/-- No list is split into a single empty text. -/
theorem splitTopLevel_ne_blank (s : List Char) : splitTopLevel s ≠ [[]] := by
  intro blank
  have joined := joinWith_splitTopLevel s
  rw [blank, joinWith] at joined
  subst joined
  cases blank

/-- The items of a list can be told apart. -/
theorem separable_splitTopLevel (s : List Char) : Separable (splitTopLevel s) := by
  rw [← splitTopLevel_joinWith_iff (splitTopLevel_ne_blank s), joinWith_splitTopLevel]

/-- Items of their own come back from the list that they were joined into. -/
theorem splitTopLevel_joinWith
    {parts : List (List Char)}
    (notBlank : parts ≠ [[]])
    (each : ∀ part ∈ parts, ({} : Scan).Loops part) :
    splitTopLevel (joinWith ',' parts) = parts :=
  (splitTopLevel_joinWith_iff notBlank).mpr (.of_loops each)

/-- Quoted texts are the items of the list that they are joined into, whatever they
hold. -/
theorem splitTopLevel_map_quote (texts : List (List Char)) :
    splitTopLevel (joinWith ',' (texts.map quote)) = texts.map quote := by
  refine splitTopLevel_joinWith ?_ fun part member => ?_
  · intro same
    have blank : [] ∈ texts.map quote := by simp [same]
    obtain ⟨s, -, noText⟩ := List.mem_map.mp blank
    cases noText
  · obtain ⟨s, -, rfl⟩ := List.mem_map.mp member
    exact (closed_quote 0 s).loops

end Text
end RestQuery
