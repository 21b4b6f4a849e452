import RestQuery.Proofs.Text.Nesting

/-!
# Quoted texts as items

Quoting escapes in two passes over the whole text: first every backslash is doubled,
then every double quote gets a backslash. In the other order the backslashes of the
first pass would be doubled by the second. A character at a time, that is one backslash
in front of each of the two characters, so that a scanner which skips the character
behind a backslash meets no quote inside.

Main statement: a quoted text is read as the text that was quoted, and quoted texts are
the items of the list that they are joined into.
-/

namespace RestQuery
namespace Text

/-- Every occurrence of a character replaced by a text. -/
def replaceBy (old : Char) (new s : List Char) : List Char :=
  s.flatMap fun c => if c = old then new else [c]

theorem replaceBy_cons (old : Char) (new : List Char) (c : Char) (rest : List Char) :
    replaceBy old new (c :: rest) = (if c = old then new else [c]) ++ replaceBy old new rest :=
  rfl

theorem replaceBy_append (old : Char) (new s t : List Char) :
    replaceBy old new (s ++ t) = replaceBy old new s ++ replaceBy old new t :=
  List.flatMap_append

/-- Escaping doubles the backslashes, and then puts one in front of every quote. -/
theorem escapeQuotes_eq_replaceBy (s : List Char) :
    escapeQuotes s = replaceBy '"' ['\\', '"'] (replaceBy '\\' ['\\', '\\'] s) := by
  induction s with
  | nil => rfl
  | cons c rest inductionHypothesis =>
      rw [replaceBy_cons, replaceBy_append, ← inductionHypothesis]
      by_cases backslash : c = '\\'
      · subst backslash
        rfl
      · by_cases isQuote : c = '"'
        · subst isQuote
          rfl
        · simp [escapeQuotes, replaceBy, backslash, isQuote]

/-- A text is quoted by doubling its backslashes, putting one in front of each of its
quotes, and setting it between quotes. It is read back whatever it holds, and the
splitter gives back any list of quoted texts that were joined by commas. -/
theorem unquote?_quote_and_splitTopLevel_joinWith_map_quote :
    (∀ s,
      quote s =
        '"' :: replaceBy '"' ['\\', '"'] (replaceBy '\\' ['\\', '\\'] s) ++ ['"']) ∧
    (∀ s, unquote? (quote s) = some s) ∧
    ∀ texts : List (List Char),
      splitTopLevel (joinWith ',' (texts.map quote)) = texts.map quote := by
  refine ⟨fun s => ?_, unquote?_quote, splitTopLevel_map_quote⟩
  rw [quote, escapeQuotes_eq_replaceBy]

end Text
end RestQuery
