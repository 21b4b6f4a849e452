import RestQuery.Text.Cut

/-!
# Quoted text

A quoted text stands between double quotes; inside, a backslash and a double
quote are written behind a backslash. Reading drops one backslash before any
character, so it also accepts texts in which more is escaped than need be.
-/

namespace RestQuery
namespace Text

/-- A backslash before every backslash and every double quote. -/
def escapeQuotes : List Char → List Char
  | [] => []
  | c :: rest =>
      if c == '\\' || c == '"' then '\\' :: c :: escapeQuotes rest
      else c :: escapeQuotes rest

/-- Drop one backslash before each escaped character, and a last one that
escapes nothing. -/
def resolveEscapes : List Char → List Char
  | [] => []
  | [c] => if c == '\\' then [] else [c]
  | c :: next :: rest =>
      if c == '\\' then next :: resolveEscapes rest
      else c :: resolveEscapes (next :: rest)

/-- The text between double quotes. -/
def quote (s : List Char) : List Char := '"' :: escapeQuotes s ++ ['"']

/-- The text that a quoted text stands for; `none` without both quotes. -/
def unquote? (s : List Char) : Option (List Char) :=
  (enclosed? '"' '"' s).map resolveEscapes

end Text
end RestQuery
