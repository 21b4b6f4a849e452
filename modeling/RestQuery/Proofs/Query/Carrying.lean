import RestQuery.Proofs.Query.Decoding

/-!
# What an address carries

An address carries some parameters if whoever takes it apart finds exactly these: there
is no fragment, and what stands behind the first question mark is read as the parameters.
Keys and values are encoded, the path is not. Whatever a question mark in the path puts
in front of the query string, the parameters that are read are other ones, because they
have more bytes in all.

Main statement: behind a base address without the two characters that end a path, an
address carries its parameters exactly if its path has none of them, either.
-/

namespace RestQuery
namespace Query

/-! ## Bytes of joined texts -/

/-- The text starts with an encoded byte. -/
def StartsWithByte (s : List Char) : Prop :=
  ∃ high low rest,
    s = '%' :: high :: low :: rest ∧
      Json.hexValue? high ≠ none ∧ Json.hexValue? low ≠ none

theorem decodedBytes_cons_of_not_startsWithByte
    {c : Char}
    {rest : List Char}
    (noByte : ¬StartsWithByte (c :: rest)) :
    decodedBytes (c :: rest) = String.utf8EncodeChar c ++ decodedBytes rest := by
  rw [decodedBytes.eq_def]
  split
  · next same => cases same
  · next high low more same =>
      cases same
      split
      · next h l isHigh isLow =>
          refine absurd ⟨high, low, more, rfl, ?_, ?_⟩ noByte
          · rw [isHigh]
            exact Option.some_ne_none h
          · rw [isLow]
            exact Option.some_ne_none l
      · rfl
  · next same =>
      cases same
      rfl

/-- A character that is no part of an encoded byte ends the one that may be in front of
it. -/
theorem StartsWithByte.of_append_cons
    {c d : Char}
    (noDigit : Json.hexValue? c = none)
    {s rest : List Char}
    (byte : StartsWithByte (d :: s ++ c :: rest)) :
    StartsWithByte (d :: s) := by
  obtain ⟨high, low, more, whole, isHigh, isLow⟩ := byte
  cases s with
  | nil =>
      cases whole
      exact absurd noDigit isHigh
  | cons first s =>
      cases s with
      | nil =>
          cases whole
          exact absurd noDigit isLow
      | cons second s =>
          cases whole
          exact ⟨high, low, s, rfl, isHigh, isLow⟩

/-- A character that is no part of an encoded byte stands for itself, and parts what is
in front of it from what follows. -/
theorem decodedBytes_append_cons
    {c : Char}
    (noDigit : Json.hexValue? c = none)
    (noPercent : c ≠ '%')
    (s rest : List Char) :
    decodedBytes (s ++ c :: rest) =
      decodedBytes s ++ (String.utf8EncodeChar c ++ decodedBytes rest) := by
  have behind {d : Char} {more : List Char}
      (noByte : ¬StartsWithByte (d :: more))
      (inductionHypothesis : decodedBytes (more ++ c :: rest) =
        decodedBytes more ++ (String.utf8EncodeChar c ++ decodedBytes rest)) :
      decodedBytes (d :: more ++ c :: rest) =
        decodedBytes (d :: more) ++ (String.utf8EncodeChar c ++ decodedBytes rest) := by
    rw [decodedBytes_cons_of_not_startsWithByte noByte, List.append_assoc,
      ← inductionHypothesis]
    exact decodedBytes_cons_of_not_startsWithByte (mt (.of_append_cons noDigit) noByte)
  induction s using decodedBytes.induct with
  | case1 => exact decodedBytes_cons_of_ne noPercent rest
  | case2 high low more h l isLow isHigh inductionHypothesis =>
      simp only [List.cons_append, decodedBytes, isHigh, isLow, inductionHypothesis]
  | case3 high low more notByte inductionHypothesis =>
      refine behind ?_ inductionHypothesis
      rintro ⟨_, _, _, same, isHigh, isLow⟩
      cases same
      obtain ⟨h, isHigh⟩ := Option.ne_none_iff_exists'.mp isHigh
      obtain ⟨l, isLow⟩ := Option.ne_none_iff_exists'.mp isLow
      exact notByte h l isHigh isLow
  | case4 d more notByte inductionHypothesis =>
      refine behind ?_ inductionHypothesis
      rintro ⟨high, low, further, same, -, -⟩
      cases same
      exact notByte high low further rfl rfl

/-! ## Sizes -/

/-- The bytes of a parameter, with one for each of its separators. -/
def paramSize (param : Param) : Nat := param.key.utf8ByteSize + param.value.utf8ByteSize + 2

/-- The bytes of all parameters together. -/
def paramsSize : List Param → Nat
  | [] => 0
  | param :: params => paramSize param + paramsSize params

theorem length_decodedBytes_of_decodeText?
    {s : List Char}
    {value : String}
    (decoded : decodeText? s = some value) :
    (decodedBytes s).length = value.utf8ByteSize := by
  rw [decodeText?, String.fromUTF8?] at decoded
  split at decoded
  · cases decoded
    exact List.size_toByteArray.symm
  · cases decoded

/-- What stands for a parameter has the bytes of the parameter. -/
theorem length_decodedBytes_of_decodeParam?
    {s : List Char}
    {param : Param}
    (decoded : decodeParam? s = some param) :
    (decodedBytes s).length + 1 = paramSize param := by
  obtain ⟨⟨left, right⟩, cut, decoded⟩ := Option.bind_eq_some_iff.mp decoded
  obtain ⟨key, isKey, decoded⟩ := Option.bind_eq_some_iff.mp decoded
  obtain ⟨value, isValue, decoded⟩ := Option.bind_eq_some_iff.mp decoded
  cases decoded
  have equalsSign : (String.utf8EncodeChar '=').length = 1 := rfl
  rw [(Text.eq_append_of_cutAt cut).1, decodedBytes_append_cons rfl (by decide),
    List.length_append, List.length_append, length_decodedBytes_of_decodeText? isKey,
    length_decodedBytes_of_decodeText? isValue, equalsSign]
  simp only [paramSize]
  omega

theorem length_decodedBytes_joinWith
    {part : List Char}
    {parts : List (List Char)}
    {params : List Param}
    (decoded : (part :: parts).mapM decodeParam? = some params) :
    (decodedBytes (Text.joinWith '&' (part :: parts))).length + 1 = paramsSize params := by
  induction parts generalizing part params with
  | nil =>
      rw [List.mapM_cons] at decoded
      obtain ⟨param, isParam, decoded⟩ := Option.bind_eq_some_iff.mp decoded
      cases decoded
      exact length_decodedBytes_of_decodeParam? isParam
  | cons next more inductionHypothesis =>
      rw [List.mapM_cons] at decoded
      obtain ⟨param, isParam, decoded⟩ := Option.bind_eq_some_iff.mp decoded
      obtain ⟨others, areOthers, decoded⟩ := Option.bind_eq_some_iff.mp decoded
      cases decoded
      have ampersand : (String.utf8EncodeChar '&').length = 1 := rfl
      have first := length_decodedBytes_of_decodeParam? isParam
      have further := inductionHypothesis areOthers
      rw [Text.joinWith, decodedBytes_append_cons rfl (by decide), List.length_append,
        List.length_append, ampersand, paramsSize]
      omega

/-- All query strings that stand for some parameters have the same bytes in number. -/
theorem length_decodedBytes_of_decodeParams?
    {s : List Char}
    {params : List Param}
    (decoded : decodeParams? s = some params) :
    (decodedBytes s).length + 1 = paramsSize params := by
  rw [decodeParams?] at decoded
  cases parts : Text.splitAt '&' s with
  | nil => exact absurd parts (Text.splitAt_ne_nil '&' s)
  | cons part more =>
      rw [parts] at decoded
      have joined := Text.joinWith_splitAt '&' s
      rw [parts] at joined
      rw [← length_decodedBytes_joinWith decoded, joined]

/-- A question mark and what stands in front of it change what a query string stands
for. -/
theorem decodeParams?_append_question_ne
    {encoded : List Char}
    {params : List Param}
    (decoded : decodeParams? encoded = some params)
    (rest : List Char) :
    decodeParams? (rest ++ '?' :: encoded) ≠ some params := by
  intro same
  have longer := length_decodedBytes_of_decodeParams? same
  have question : (String.utf8EncodeChar '?').length = 1 := rfl
  rw [← length_decodedBytes_of_decodeParams? decoded, decodedBytes_append_cons rfl (by decide),
    List.length_append, List.length_append, question] at longer
  omega

/-! ## Addresses -/

/-- An address carries exactly some parameters: it has no fragment, no question mark if
there are no parameters, and otherwise a query string behind the first question mark
that stands for them. -/
structure Carries (params : List Param) (url : List Char) : Prop where
  noFragment : '#' ∉ url
  noQuery : params = [] → '?' ∉ url
  decoded : params ≠ [] → ∃ path encoded,
    Text.cutAt '?' url = some (path, encoded) ∧ decodeParams? encoded = some params

theorem not_mem_trimSlashes {c : Char} {base : List Char} (absent : c ∉ base) :
    c ∉ trimSlashes base := by
  obtain ⟨slashes, whole⟩ := exists_eq_trimSlashes_append base
  rw [whole] at absent
  exact fun member => absent (List.mem_append_left _ member)

theorem hash_not_mem_queryString (params : List Param) : '#' ∉ queryString params := by
  by_cases some : params = []
  · rw [some]
    exact List.not_mem_nil
  · rw [queryString_eq_cons some, List.mem_cons, not_or]
    exact ⟨by decide, fun member => (isQueryChar_of_mem_joinWith member).2.2 (by decide)⟩

section

variable {base : List Char} (path : List Char) {params : List Param}

/-- What does not occur in the base address is in front of the query string only if it
is in the path. -/
theorem mem_trimSlashes_append_iff
    {c : Char}
    (absent : c ∉ base)
    (noSlash : c ≠ '/') :
    c ∈ trimSlashes base ++ '/' :: path ↔ c ∈ path := by
  rw [List.mem_append, or_iff_right (not_mem_trimSlashes absent), List.mem_cons,
    or_iff_right noSlash]

theorem hash_mem_urlChars_iff (noHash : '#' ∉ base) (params : List Param) :
    '#' ∈ urlChars base path params ↔ '#' ∈ path := by
  rw [urlChars, List.mem_append, or_iff_left (hash_not_mem_queryString params),
    mem_trimSlashes_append_iff path noHash (by decide)]

theorem question_mem_urlChars_nil_iff (noQuestion : '?' ∉ base) :
    '?' ∈ urlChars base path [] ↔ '?' ∈ path := by
  rw [urlChars, queryString, List.append_nil,
    mem_trimSlashes_append_iff path noQuestion (by decide)]

/-- The parameters are read behind the first question mark of an address exactly if it is
the one in front of them. -/
theorem exists_decodeParams?_urlChars_iff
    (noQuestion : '?' ∉ base)
    (some : params ≠ []) :
    (∃ front encoded,
      Text.cutAt '?' (urlChars base path params) = .some (front, encoded) ∧
        decodeParams? encoded = .some params) ↔
      '?' ∉ path := by
  have decoded := decodeParams?_joinWith some
  have inFront (path : List Char) :=
    mem_trimSlashes_append_iff path noQuestion (show '?' ≠ '/' by decide)
  have whole (path : List Char) : urlChars base path params =
      (trimSlashes base ++ '/' :: path) ++ '?' :: Text.joinWith '&' (params.map paramChars) := by
    rw [urlChars, queryString_eq_cons some]
  constructor
  · rintro ⟨front, encoded, cut, same⟩ member
    -- the address is cut inside the path, in front of its own query string
    obtain ⟨before, behind, rfl, absent⟩ := List.eq_append_cons_of_mem member
    have inPath : urlChars base (before ++ '?' :: behind) params =
        (trimSlashes base ++ '/' :: before) ++
          '?' :: (behind ++ '?' :: Text.joinWith '&' (params.map paramChars)) := by
      simp [whole]
    rw [inPath, Text.cutAt_append _ (mt (inFront before).mp absent)] at cut
    cases cut
    exact decodeParams?_append_question_ne decoded behind same
  · intro absent
    rw [whole, Text.cutAt_append _ (mt (inFront path).mp absent)]
    exact ⟨_, _, rfl, decoded⟩

/-- If the base address has neither a question mark nor a number sign, the whole address
carries its parameters exactly if the path has none of them, either. -/
theorem carries_urlChars_iff
    (noQuestion : '?' ∉ base)
    (noHash : '#' ∉ base)
    (params : List Param) :
    Carries params (urlChars base path params) ↔ '?' ∉ path ∧ '#' ∉ path := by
  have fragment_iff := not_congr (hash_mem_urlChars_iff path noHash params)
  by_cases none : params = []
  · subst none
    have query_iff := not_congr (question_mem_urlChars_nil_iff path noQuestion)
    constructor
    · intro carries
      exact ⟨query_iff.mp (carries.noQuery rfl), fragment_iff.mp carries.noFragment⟩
    · rintro ⟨noQuery, noFragment⟩
      exact ⟨fragment_iff.mpr noFragment, fun _ => query_iff.mpr noQuery,
        fun some => absurd rfl some⟩
  · have decoded_iff := exists_decodeParams?_urlChars_iff path noQuestion none
    constructor
    · intro carries
      exact ⟨decoded_iff.mp (carries.decoded none), fragment_iff.mp carries.noFragment⟩
    · rintro ⟨noQuery, noFragment⟩
      exact ⟨fragment_iff.mpr noFragment, fun same => absurd same none,
        fun _ => decoded_iff.mpr noQuery⟩

end

end Query
end RestQuery
