import RestQuery.Json.Token
import RestQuery.Proofs.Sequence
import RestQuery.Proofs.Text.Cutting
import RestQuery.Query.Assembly

/-!
# Query strings are read back

A query string is read by cutting it at every ampersand, cutting each part at
its first equals sign, and resolving the percent signs on both sides. What was
written comes back parameter by parameter, whatever the keys and values hold,
because nothing that has a meaning in an address is left in them.
-/

namespace RestQuery
namespace Query

/-! ## Reading -/

/-- The bytes of an encoded text: a percent sign and two hexadecimal digits are
one byte, and every other character stands for its own bytes. -/
def decodedBytes : List Char → List UInt8
  | [] => []
  | '%' :: high :: low :: rest =>
      match Json.hexValue? high, Json.hexValue? low with
      | some h, some l => UInt8.ofNat (16 * h + l) :: decodedBytes rest
      | _, _ => String.utf8EncodeChar '%' ++ decodedBytes (high :: low :: rest)
  | c :: rest => String.utf8EncodeChar c ++ decodedBytes rest

/-- The text that an encoded text stands for; `none` unless its bytes are the
UTF-8 form of one. -/
def decodeText? (s : List Char) : Option String :=
  String.fromUTF8? (decodedBytes s).toByteArray

/-- The parameter that a part of a query string stands for. -/
def decodeParam? (s : List Char) : Option Param := do
  let (key, value) ← Text.cutAt '=' s
  return { key := ← decodeText? key, value := ← decodeText? value }

/-- The parameters that a query string stands for, without its question
mark. -/
def decodeParams? (s : List Char) : Option (List Param) :=
  (Text.splitAt '&' s).mapM decodeParam?

/-! ## Encoded texts -/

theorem hexValue?_hexDigit {n : Nat} (small : n < 16) :
    Json.hexValue? (hexDigit n) = some n := by
  revert n
  decide

theorem isEscaped_hexDigit {n : Nat} (small : n < 16) : isEscaped (hexDigit n) = false := by
  revert n
  decide

/-- A byte behind a percent sign is read as the byte. -/
theorem decodedBytes_byteChars (byte : UInt8) (rest : List Char) :
    decodedBytes (byteChars byte ++ rest) = byte :: decodedBytes rest := by
  have small : byte.toNat < 256 := byte.toNat_lt_size
  have high := hexValue?_hexDigit (n := byte.toNat / 16) (by omega)
  have low := hexValue?_hexDigit (n := byte.toNat % 16) (by omega)
  have whole : UInt8.ofNat (16 * (byte.toNat / 16) + byte.toNat % 16) = byte := by
    rw [Nat.div_add_mod, UInt8.ofNat_toNat]
  simp only [byteChars, List.cons_append, List.nil_append, decodedBytes, high, low, whole]

theorem decodedBytes_flatMap_byteChars (bytes : List UInt8) (rest : List Char) :
    decodedBytes (bytes.flatMap byteChars ++ rest) = bytes ++ decodedBytes rest := by
  induction bytes with
  | nil => rfl
  | cons byte more inductionHypothesis =>
      rw [List.flatMap_cons, List.append_assoc, decodedBytes_byteChars, inductionHypothesis,
        List.cons_append]

theorem decodedBytes_cons_of_ne
    {c : Char}
    (plain : c ≠ '%')
    (rest : List Char) :
    decodedBytes (c :: rest) = String.utf8EncodeChar c ++ decodedBytes rest := by
  rw [decodedBytes.eq_def]
  split
  · next same => cases same
  · next same => exact absurd (List.cons.inj same).1 plain
  · next same =>
      obtain ⟨rfl, rfl⟩ := List.cons.inj same
      rfl

/-- An encoded character stands for its own bytes, whatever follows it. -/
theorem decodedBytes_charChars (c : Char) (rest : List Char) :
    decodedBytes (charChars c ++ rest) = String.utf8EncodeChar c ++ decodedBytes rest := by
  rw [charChars]
  split
  · exact decodedBytes_flatMap_byteChars _ rest
  · next notEscaped =>
      refine decodedBytes_cons_of_ne ?_ rest
      rintro rfl
      exact notEscaped rfl

theorem decodedBytes_encode (s : List Char) :
    decodedBytes (encode s) = s.flatMap String.utf8EncodeChar := by
  induction s with
  | nil => rfl
  | cons c rest inductionHypothesis =>
      rw [encode, List.flatMap_cons, decodedBytes_charChars, ← encode, inductionHypothesis,
        List.flatMap_cons]

/-- An encoded text is read back, whatever it holds. -/
theorem decodeText?_encode (value : String) : decodeText? (encode value.toList) = some value := by
  have bytes : (decodedBytes (encode value.toList)).toByteArray = value.toByteArray := by
    rw [decodedBytes_encode]
    exact String.utf8Encode_toList
  rw [decodeText?, bytes, String.fromUTF8?, dif_pos value.isValidUTF8]
  rfl

/-! ## What is left in a query string -/

/-- The character is printable ASCII, and means neither a blank nor the start of
a query string or of a fragment. -/
def IsQueryChar (c : Char) : Prop :=
  0x20 < c.toNat ∧ c.toNat < 0x7F ∧ c ∉ ['"', '#', '<', '>', '+', '?']

/-- Encoding leaves percent signs and characters that are written plainly. -/
theorem eq_or_isEscaped_of_mem_encode
    {s : List Char}
    {c : Char}
    (member : c ∈ encode s) :
    c = '%' ∨ isEscaped c = false := by
  obtain ⟨d, -, member⟩ := List.mem_flatMap.mp member
  rw [charChars] at member
  split at member
  · obtain ⟨byte, -, member⟩ := List.mem_flatMap.mp member
    have small : byte.toNat < 256 := byte.toNat_lt_size
    simp only [byteChars, List.mem_cons, List.not_mem_nil, or_false] at member
    rcases member with percent | high | low
    · exact .inl percent
    · exact .inr (high ▸ isEscaped_hexDigit (by omega))
    · exact .inr (low ▸ isEscaped_hexDigit (by omega))
  · next plain =>
      rw [List.mem_singleton.mp member]
      exact .inr (Bool.eq_false_iff.mpr plain)

theorem ne_of_isEscaped_eq_false
    {c d : Char}
    (plain : isEscaped c = false)
    (escaped : isEscaped d = true) :
    c ≠ d := by
  rintro rfl
  rw [escaped] at plain
  cases plain

theorem isQueryChar_of_isEscaped_eq_false
    {c : Char}
    (plain : isEscaped c = false) :
    IsQueryChar c := by
  have bounds : ¬c.toNat < 0x20 ∧ ¬0x7F ≤ c.toNat := by
    simp only [isEscaped, Bool.or_eq_false_iff, decide_eq_false_iff_not] at plain
    exact plain.1
  have noBlank : c.toNat ≠ 0x20 := fun same =>
    ne_of_isEscaped_eq_false (d := ' ') plain rfl (Char.toNat_inj.mp same)
  have listed : (['"', '#', '<', '>', '+', '?'].all isEscaped) = true := by decide
  refine ⟨by omega, by omega, fun member => ?_⟩
  exact ne_of_isEscaped_eq_false plain (List.all_eq_true.mp listed c member) rfl

theorem isQueryChar_of_mem_encode
    {s : List Char}
    {c : Char}
    (member : c ∈ encode s) :
    IsQueryChar c := by
  rcases eq_or_isEscaped_of_mem_encode member with rfl | plain
  · exact ⟨by decide, by decide, by decide⟩
  · exact isQueryChar_of_isEscaped_eq_false plain

/-- No separator is left in an encoded text. -/
theorem not_mem_encode
    {separator : Char}
    (escaped : isEscaped separator = true)
    (noPercent : separator ≠ '%')
    (s : List Char) :
    separator ∉ encode s := by
  intro member
  rcases eq_or_isEscaped_of_mem_encode member with percent | plain
  · exact noPercent percent
  · exact ne_of_isEscaped_eq_false plain escaped rfl

/-! ## Parameters -/

/-- A parameter is read back from its part of a query string. -/
theorem decodeParam?_paramChars (param : Param) : decodeParam? (paramChars param) = some param := by
  have cut : Text.cutAt '=' (paramChars param) =
      some (encode param.key.toList, encode param.value.toList) :=
    Text.cutAt_append _ (not_mem_encode rfl (by decide) _)
  simp only [decodeParam?, cut, Option.bind_eq_bind, Option.bind_some, decodeText?_encode]
  rfl

theorem ampersand_not_mem_paramChars (param : Param) : '&' ∉ paramChars param := by
  rw [paramChars, List.mem_append, List.mem_cons, not_or, not_or]
  exact ⟨not_mem_encode rfl (by decide) _, by decide, not_mem_encode rfl (by decide) _⟩

theorem isQueryChar_of_mem_paramChars
    {param : Param}
    {c : Char}
    (member : c ∈ paramChars param) :
    IsQueryChar c := by
  rw [paramChars, List.mem_append, List.mem_cons] at member
  rcases member with key | rfl | value
  · exact isQueryChar_of_mem_encode key
  · exact ⟨by decide, by decide, by decide⟩
  · exact isQueryChar_of_mem_encode value

/-- Parameters are read back from their query string, with the same keys and
values in the same order. -/
theorem decodeParams?_joinWith
    {params : List Param}
    (some : params ≠ []) :
    decodeParams? (Text.joinWith '&' (params.map paramChars)) = .some params := by
  have parts : Text.splitAt '&' (Text.joinWith '&' (params.map paramChars)) =
      params.map paramChars := by
    refine Text.splitAt_joinWith (by simpa using some) fun part member => ?_
    obtain ⟨param, -, rfl⟩ := List.mem_map.mp member
    exact ampersand_not_mem_paramChars param
  have each : ∀ params : List Param,
      (params.map paramChars).mapM decodeParam? = .some params := by
    intro params
    induction params with
    | nil => rfl
    | cons param rest inductionHypothesis =>
        rw [List.map_cons, List.mapM_cons, decodeParam?_paramChars, inductionHypothesis]
        rfl
  rw [decodeParams?, parts, each]

theorem isQueryChar_of_mem_joinWith
    {params : List Param}
    {c : Char}
    (member : c ∈ Text.joinWith '&' (params.map paramChars)) :
    IsQueryChar c := by
  rcases Text.eq_or_exists_of_mem_joinWith member with rfl | ⟨part, inList, member⟩
  · exact ⟨by decide, by decide, by decide⟩
  · obtain ⟨param, -, rfl⟩ := List.mem_map.mp inList
    exact isQueryChar_of_mem_paramChars member

/-! ## Addresses -/

/-- Only slashes are cut off at the end of an address. -/
theorem exists_eq_trimSlashes_append (url : List Char) :
    ∃ slashes, url = trimSlashes url ++ List.replicate slashes '/' := by
  obtain ⟨dropped, whole, each⟩ := Text.exists_eq_dropEndWhile_append (· == '/') url
  have slashes : dropped = List.replicate dropped.length '/' :=
    List.eq_replicate_iff.mpr ⟨rfl, fun c member => by simpa using each c member⟩
  exact ⟨dropped.length, by rw [← slashes]; exact whole⟩

theorem getLast?_trimSlashes (url : List Char) : (trimSlashes url).getLast? ≠ some '/' := by
  intro last
  have kept := Text.getLast?_dropEndWhile last
  cases kept

/-- The query string of some parameters is a question mark and characters that stand for
them, if there are any. -/
theorem queryString_eq_cons
    {params : List Param}
    (some : params ≠ []) :
    queryString params = '?' :: Text.joinWith '&' (params.map paramChars) := by
  cases params with
  | nil => exact absurd rfl some
  | cons param rest => rfl

/-- What stands behind a path carries some parameters: nothing carries none, and behind a
question mark stand characters that are read as the parameters, in their order, and can
start neither a second query string nor a fragment. -/
inductive IsQueryFor : List Param → List Char → Prop
  | none : IsQueryFor [] []
  | some
      {params : List Param}
      {encoded : List Char}
      (decoded : decodeParams? encoded = some params)
      (plain : ∀ c ∈ encoded, IsQueryChar c) :
      IsQueryFor params ('?' :: encoded)

theorem isQueryFor_queryString (params : List Param) :
    IsQueryFor params (queryString params) := by
  by_cases some : params = []
  · subst some
    exact .none
  · rw [queryString_eq_cons some]
    exact .some (decodeParams?_joinWith some) fun c member => isQueryChar_of_mem_joinWith member

/-- The text is the address of a path that carries some parameters: the base address
without the slashes at its end, a slash, the path, and what carries the parameters. -/
inductive IsAddress (base path : String) (params : List Param) (address : String) : Prop
  | intro
      {front behind : List Char}
      {slashes : Nat}
      (base_eq : base.toList = front ++ List.replicate slashes '/')
      (trimmed : front.getLast? ≠ some '/')
      (address_eq : address.toList = front ++ '/' :: path.toList ++ behind)
      (query : IsQueryFor params behind)

/-- The address that is written carries the parameters that it is written with. -/
theorem isAddress_urlChars (base path : String) (params : List Param) :
    IsAddress base path params
      (String.ofList (urlChars base.toList path.toList params)) := by
  obtain ⟨slashes, whole⟩ := exists_eq_trimSlashes_append base.toList
  exact .intro whole (getLast?_trimSlashes base.toList) String.toList_ofList
    (isQueryFor_queryString params)

/-- A query with parameters is requested from the base address without the
slashes at its end, a slash and the path. Behind these stands nothing if there
are no parameters; otherwise a question mark, and characters that are read as
exactly the parameters of the query and can start neither a second query string
nor a fragment. -/
theorem exists_url_decodeParams?
    {settings : Settings}
    {query : Query}
    {params : List Param}
    (written : query.params settings = .ok params)
    (base path : String) :
    ∃ slashes behind,
      base.toList = trimSlashes base.toList ++ List.replicate slashes '/' ∧
        (trimSlashes base.toList).getLast? ≠ some '/' ∧
        query.url base path settings =
          .ok (String.ofList (trimSlashes base.toList ++ '/' :: path.toList ++ behind)) ∧
        (behind = [] ↔ params = []) ∧
        (params ≠ [] →
          ∃ encoded,
            behind = '?' :: encoded ∧
              decodeParams? encoded = some params ∧
              ∀ c ∈ encoded, IsQueryChar c) := by
  obtain ⟨slashes, whole⟩ := exists_eq_trimSlashes_append base.toList
  refine ⟨slashes, queryString params, whole, getLast?_trimSlashes base.toList, ?_, ?_,
    fun someParam => ?_⟩
  · rw [url, written]
    rfl
  · cases params <;> simp [queryString]
  · exact ⟨_, queryString_eq_cons someParam, decodeParams?_joinWith someParam,
      fun c member => isQueryChar_of_mem_joinWith member⟩

/-- A parameter that spells out a second one, and a fragment, is still a single
parameter in front of the filter. -/
theorem exists_url_decodeParams?_users :
    ∃ encoded,
      Query.url "http://localhost//" "users" { params := [⟨"a&b", "1&c=2#d\u00E9"⟩] }
          { filters := [.isNull "status"] } =
        .ok (String.ofList ("http://localhost/users?".toList ++ encoded)) ∧
        decodeParams? encoded = some [⟨"a&b", "1&c=2#d\u00E9"⟩, ⟨"status", "is.null"⟩] := by
  have written : Query.params { params := [⟨"a&b", "1&c=2#d\u00E9"⟩] }
      { filters := [.isNull "status"] } =
        .ok [⟨"a&b", "1&c=2#d\u00E9"⟩, ⟨"status", "is.null"⟩] := rfl
  obtain ⟨slashes, behind, -, -, requested, -, someParam⟩ :=
    exists_url_decodeParams? written "http://localhost//" "users"
  obtain ⟨encoded, rfl, decoded, -⟩ := someParam (List.cons_ne_nil _ _)
  exact ⟨encoded, requested, decoded⟩

end Query
end RestQuery
