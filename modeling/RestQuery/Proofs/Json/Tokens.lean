import RestQuery.Json.Token
import RestQuery.Proofs.Text.Cutting

/-!
# The tokens of a written document

A document in compact form is cut into the tokens it was put together from,
whatever follows it, as long as that does not continue its last word.
-/

namespace RestQuery
namespace Json

/-! ## Texts -/

/-- A character as the pass takes it up from the escape it is written with. -/
def pieceOf (c : Char) : Piece :=
  if escapeLetter? c = none ∧ c.toNat < 0x20 then .code c.toNat else .char c

/-- The pieces of a written text stand for its characters. -/
theorem resolvePieces?_map_pieceOf (s : List Char) :
    resolvePieces? (s.map pieceOf) = some s := by
  induction s with
  | nil => rfl
  | cons c rest inductionHypothesis =>
      rw [List.map_cons, pieceOf]
      split
      · next control =>
          have low : isLeading c.toNat = false ∧ isTrailing c.toNat = false := by
            constructor <;> simp only [isLeading, isTrailing, Bool.and_eq_false_iff,
              decide_eq_false_iff_not] <;> omega
          rw [resolvePieces?.eq_def]
          simp only [low.1, low.2, Bool.false_eq_true, if_false]
          rw [inductionHypothesis, Option.map_some, Char.ofNat_toNat]
      · rw [resolvePieces?, inductionHypothesis, Option.map_some]

theorem hexValue?_hexDigit {n : Nat} (small : n < 16) : hexValue? (hexDigit n) = some n := by
  revert n
  decide

theorem unescapeLetter?_of_escapeLetter?
    {c letter : Char}
    (escaped : escapeLetter? c = some letter) :
    letter ≠ 'u' ∧ unescapeLetter? letter = some c := by
  simp only [escapeLetter?, beq_iff_eq] at escaped
  repeat' split at escaped
  all_goals first
    | (cases escaped; subst_vars; exact ⟨by decide, rfl⟩)
    | cases escaped

/-- Inside a text a written character becomes one piece. -/
theorem tokensFrom?_charChars
    (before : List Piece)
    (c : Char)
    (rest : List Char) :
    tokensFrom? (.text before .none) (charChars c ++ rest) =
      tokensFrom? (.text (pieceOf c :: before) .none) rest := by
  unfold charChars
  cases escaped : escapeLetter? c with
  | some letter =>
      obtain ⟨noCode, unescaped⟩ := unescapeLetter?_of_escapeLetter? escaped
      simp [pieceOf, escaped, tokensFrom?, Mode.step?, textStep?, noCode,
        unescaped]
  | none =>
      have plain : c ≠ '"' ∧ c ≠ '\\' := by
        constructor <;> rintro rfl <;> simp [escapeLetter?] at escaped
      by_cases control : c.toNat < 0x20
      · have high := hexValue?_hexDigit (n := c.toNat / 16) (by omega)
        have low := hexValue?_hexDigit (n := c.toNat % 16) (by omega)
        have zero : hexValue? '0' = some 0 := by decide
        have value : c.toNat / 16 * 16 + c.toNat % 16 = c.toNat := by omega
        simp [pieceOf, escaped, control, tokensFrom?, Mode.step?, textStep?, zero, high, low,
          value]
      · simp [pieceOf, escaped, control, tokensFrom?, Mode.step?, textStep?, plain]

theorem tokensFrom?_flatMap_charChars
    (before : List Piece)
    (s rest : List Char) :
    tokensFrom? (.text before .none) (s.flatMap charChars ++ rest) =
      tokensFrom? (.text ((s.map pieceOf).reverse ++ before) .none) rest := by
  induction s generalizing before with
  | nil => rfl
  | cons c more inductionHypothesis =>
      rw [List.flatMap_cons, List.append_assoc, tokensFrom?_charChars, inductionHypothesis,
        List.map_cons, List.reverse_cons, List.append_assoc, List.singleton_append]

/-- A written text is one token. -/
theorem tokensFrom?_textChars (value : String) (rest : List Char) :
    tokensFrom? .between (textChars value ++ rest) =
      (tokensFrom? .between rest).map (.text (some value) :: ·) := by
  have opened :
      tokensFrom? .between (textChars value ++ rest) =
        tokensFrom? (.text [] .none) (value.toList.flatMap charChars ++ '"' :: rest) := by
    simp [textChars, tokensFrom?, Mode.step?, openStep, punctuation?, isSpace]
  rw [opened, tokensFrom?_flatMap_charChars]
  simp [tokensFrom?, Mode.step?, textStep?, resolvePieces?_map_pieceOf]

/-! ## Words -/

/-- The character is part of a word. -/
def isWordChar (c : Char) : Bool :=
  (punctuation? c).isNone && !isSpace c && c != '"'

theorem openStep_of_isWordChar
    {c : Char}
    (wordChar : isWordChar c = true) :
    openStep c = ([], .word [c]) := by
  simp only [isWordChar, Bool.and_eq_true, Option.isNone_iff_eq_none, Bool.not_eq_true',
    bne_iff_ne] at wordChar
  simp [openStep, wordChar]

/-- Only a character of a word begins one. -/
theorem openStep_of_isWordChar_eq_false
    {c : Char}
    (noWord : isWordChar c = false) :
    ∀ before, (openStep c).2 ≠ .word before := by
  intro before
  cases mark : punctuation? c with
  | some token => simp [openStep, mark]
  | none =>
      by_cases space : isSpace c = true
      · simp [openStep, mark, space]
      · have quote : c = '"' := by simpa [isWordChar, mark, space] using noWord
        subst quote
        simp [openStep, punctuation?, isSpace]

/-- A text that does not continue a word in front of it. -/
def EndsWord (rest : List Char) : Prop :=
  ∀ c, rest.head? = some c → isWordChar c = false

theorem EndsWord.nil : EndsWord [] := fun _ found => nomatch found

theorem EndsWord.cons
    {c : Char}
    (noWord : isWordChar c = false)
    (rest : List Char) :
    EndsWord (c :: rest) := by
  intro d found
  cases found
  exact noWord

theorem EndsWord.append
    {s t : List Char}
    (first : EndsWord s)
    (second : EndsWord t) :
    EndsWord (s ++ t) := by
  cases s with
  | nil => exact second
  | cons c rest => exact .cons (first c List.head?_cons) (rest ++ t)

theorem tokensFrom?_word_append
    (before : List Char)
    {s : List Char}
    (wordChars : ∀ c ∈ s, isWordChar c = true)
    (rest : List Char) :
    tokensFrom? (.word before) (s ++ rest) =
      tokensFrom? (.word (s.reverse ++ before)) rest := by
  induction s generalizing before with
  | nil => rfl
  | cons c more inductionHypothesis =>
      have first := openStep_of_isWordChar (wordChars c List.mem_cons_self)
      have others : ∀ d ∈ more, isWordChar d = true :=
        fun d member => wordChars d (List.mem_cons_of_mem c member)
      rw [List.cons_append, tokensFrom?, Mode.step?, first]
      simp only [List.nil_append, Option.map_id']
      rw [inductionHypothesis (c :: before) others, List.reverse_cons, List.append_assoc,
        List.singleton_append]

/-- The end of a word completes its token, and what follows is read as if
nothing had come before. -/
theorem tokensFrom?_word_of_endsWord
    {before rest : List Char}
    {token : Token}
    (word : wordToken? before.reverse = some token)
    (ends : EndsWord rest) :
    tokensFrom? (.word before) rest =
      (tokensFrom? .between rest).map (token :: ·) := by
  cases rest with
  | nil => simp [tokensFrom?, Mode.finish?, word]
  | cons c more =>
      have noWord := openStep_of_isWordChar_eq_false (ends c List.head?_cons)
      cases opened : openStep c with
      | mk tokens mode =>
          rw [opened] at noWord
          have stepped :
              Mode.step? c (.word before) =
                (wordToken? before.reverse).map fun word => (word :: tokens, mode) := by
            rw [Mode.step?, opened]
            cases mode with
            | word before' => exact absurd rfl (noWord before')
            | between => rfl
            | text pieces escape => rfl
          rw [tokensFrom?, stepped, word, tokensFrom?, Mode.step?, opened]
          simp [Function.comp_def]

/-- A word is one token. -/
theorem tokensFrom?_word
    {s rest : List Char}
    {token : Token}
    (word : wordToken? s = some token)
    (some : s ≠ [])
    (wordChars : ∀ c ∈ s, isWordChar c = true)
    (ends : EndsWord rest) :
    tokensFrom? .between (s ++ rest) =
      (tokensFrom? .between rest).map (token :: ·) := by
  cases s with
  | nil => exact absurd rfl some
  | cons c more =>
      have first := openStep_of_isWordChar (wordChars c List.mem_cons_self)
      have others : ∀ d ∈ more, isWordChar d = true :=
        fun d member => wordChars d (List.mem_cons_of_mem c member)
      rw [List.cons_append, tokensFrom?, Mode.step?, first]
      simp only [List.nil_append, Option.map_id']
      rw [tokensFrom?_word_append [c] others]
      refine tokensFrom?_word_of_endsWord ?_ ends
      simpa using word

/-- A punctuation character is one token. -/
theorem tokensFrom?_punctuation
    {c : Char}
    {token : Token}
    (mark : punctuation? c = some token)
    (rest : List Char) :
    tokensFrom? .between (c :: rest) =
      (tokensFrom? .between rest).map (token :: ·) := by
  simp [tokensFrom?, Mode.step?, openStep, mark]

/-! ## Documents -/

mutual

/-- The tokens of a document. -/
def tokens : Json → List Token
  | null => [.null]
  | bool value => [.bool value]
  | number literal => [.number literal]
  | text value => [.text (some value)]
  | unreadable => [.null]
  | array [] => [.openArray, .closeArray]
  | array (item :: items) =>
      .openArray :: item.tokens ++ itemsTokens items ++ [.closeArray]
  | object [] => [.openObject, .closeObject]
  | object ((key, value) :: members) =>
      .openObject :: .text (some key) :: .colon :: value.tokens ++ membersTokens members
        ++ [.closeObject]

/-- The tokens of further items, each behind a comma. -/
def itemsTokens : List Json → List Token
  | [] => []
  | item :: items => .comma :: item.tokens ++ itemsTokens items

/-- The tokens of further members, each behind a comma. -/
def membersTokens : List (String × Json) → List Token
  | [] => []
  | (key, value) :: members =>
      .comma :: .text (some key) :: .colon :: value.tokens ++ membersTokens members

end

/-- The characters are the literal of a number, as a document holds it. -/
def IsLiteral (literal : List Char) : Prop :=
  wordToken? literal = some (.number literal) ∧ ∀ c ∈ literal, isWordChar c = true

mutual

/-- Every number of the document is a literal and no part is unreadable. -/
def Legible : Json → Prop
  | number literal => IsLiteral literal
  | unreadable => False
  | array items => LegibleItems items
  | object members => LegibleMembers members
  | _ => True

/-- All items are legible. -/
def LegibleItems : List Json → Prop
  | [] => True
  | item :: items => item.Legible ∧ LegibleItems items

/-- The values of all members are legible. -/
def LegibleMembers : List (String × Json) → Prop
  | [] => True
  | (_, value) :: members => value.Legible ∧ LegibleMembers members

end

theorem IsLiteral.ne_nil {literal : List Char} (isLiteral : IsLiteral literal) : literal ≠ [] := by
  rintro rfl
  exact absurd isLiteral.1 (by decide)

/-- In front of any text that does not continue its last word, the characters
are cut into the tokens. -/
def Lexes (s : List Char) (tokens : List Token) : Prop :=
  ∀ rest, EndsWord rest →
    tokensFrom? .between (s ++ rest) = (tokensFrom? .between rest).map (tokens ++ ·)

namespace Lexes

variable {s t : List Char} {first second : List Token}

theorem nil : Lexes [] [] := fun rest _ => by simp

theorem append
    (lexesFirst : Lexes s first)
    (apart : EndsWord t)
    (lexesSecond : Lexes t second) :
    Lexes (s ++ t) (first ++ second) := by
  intro rest ends
  rw [List.append_assoc, lexesFirst _ (apart.append ends), lexesSecond rest ends,
    Option.map_map]
  simp only [Function.comp_def, List.append_assoc]

theorem punctuation
    {c : Char}
    {token : Token}
    (mark : punctuation? c = some token)
    (lexes : Lexes s first) :
    Lexes (c :: s) (token :: first) := by
  intro rest ends
  rw [List.cons_append, tokensFrom?_punctuation mark, lexes rest ends, Option.map_map]
  rfl

theorem word
    {token : Token}
    (word : wordToken? s = some token)
    (some : s ≠ [])
    (wordChars : ∀ c ∈ s, isWordChar c = true) :
    Lexes s [token] :=
  fun _ ends => tokensFrom?_word word some wordChars ends

theorem text (value : String) : Lexes (textChars value) [.text (some value)] :=
  fun rest _ => tokensFrom?_textChars value rest

/-- The key of a member, a colon and the value. -/
theorem member
    (key : String)
    (lexes : Lexes s first) :
    Lexes (textChars key ++ ':' :: s) (.text (some key) :: .colon :: first) :=
  append (text key) (.cons (by decide) s) (punctuation rfl lexes)

end Lexes

theorem endsWord_flatMap_comma (parts : List (List Char)) :
    EndsWord (parts.flatMap (',' :: ·)) := by
  cases parts with
  | nil => exact .nil
  | cons part rest => exact .cons (by decide) _

mutual

/-- A written document is cut into its tokens. -/
theorem lexes_chars :
    ∀ json : Json, json.Legible → Lexes json.chars json.tokens
  | null, _ => .word rfl (by decide) (List.all_eq_true.mp (by decide))
  | bool true, _ => .word rfl (by decide) (List.all_eq_true.mp (by decide))
  | bool false, _ => .word rfl (by decide) (List.all_eq_true.mp (by decide))
  | number _, legible => .word legible.1 (IsLiteral.ne_nil legible) legible.2
  | text value, _ => .text value
  | array [], _ => .punctuation rfl (.punctuation rfl .nil)
  | array (item :: items), legible => by
      have closing : Lexes [']'] [.closeArray] := .punctuation rfl .nil
      have further := (lexes_itemsChars items legible.2).append (.cons (by decide) []) closing
      have apart := (endsWord_flatMap_comma (itemsChars items)).append
        (EndsWord.cons (c := ']') (by decide) [])
      have all := (lexes_chars item legible.1).append apart further
      rw [chars, itemsChars, Text.joinWith_cons, tokens]
      simpa only [List.cons_append, List.append_assoc] using
        Lexes.punctuation (c := '[') rfl all
  | object [], _ => .punctuation rfl (.punctuation rfl .nil)
  | object ((key, value) :: members), legible => by
      have closing : Lexes ['\x7d'] [.closeObject] := .punctuation rfl .nil
      have further :=
        (lexes_membersChars members legible.2).append (.cons (by decide) []) closing
      have apart := (endsWord_flatMap_comma (membersChars members)).append
        (EndsWord.cons (c := '\x7d') (by decide) [])
      have all := ((lexes_chars value legible.1).member key).append apart further
      rw [chars, membersChars, Text.joinWith_cons, tokens]
      simpa only [List.cons_append, List.append_assoc] using
        Lexes.punctuation (c := '\x7b') rfl all

/-- Written items behind commas are cut into their tokens. -/
theorem lexes_itemsChars :
    ∀ items : List Json, LegibleItems items →
      Lexes ((itemsChars items).flatMap (',' :: ·)) (itemsTokens items)
  | [], _ => .nil
  | item :: items, legible => by
      have all := (lexes_chars item legible.1).append (endsWord_flatMap_comma _)
        (lexes_itemsChars items legible.2)
      rw [itemsChars, List.flatMap_cons, itemsTokens]
      exact Lexes.punctuation rfl all

/-- Written members behind commas are cut into their tokens. -/
theorem lexes_membersChars :
    ∀ members : List (String × Json), LegibleMembers members →
      Lexes ((membersChars members).flatMap (',' :: ·)) (membersTokens members)
  | [], _ => .nil
  | (key, value) :: members, legible => by
      have all := ((lexes_chars value legible.1).member key).append (endsWord_flatMap_comma _)
        (lexes_membersChars members legible.2)
      rw [membersChars, List.flatMap_cons, membersTokens]
      exact Lexes.punctuation rfl all

end

/-- The tokens of a written document are its own. -/
theorem tokens?_chars
    {json : Json}
    (legible : json.Legible) :
    tokens? json.chars = some json.tokens := by
  have all := lexes_chars json legible [] .nil
  rw [List.append_nil] at all
  rw [tokens?, all]
  simp [tokensFrom?, Mode.finish?]

end Json
end RestQuery
