import RestQuery.Connection.Document
import RestQuery.Proofs.Query.Decoding
import RestQuery.Proofs.Session.Preview

/-!
# Schemes of requested addresses

A configuration is accepted if its address has one of the two schemes once it is
trimmed, but a client goes to the address as it was given, without the slashes at
its end. White space in front of the scheme is therefore requested too, and an
address that is nothing but a scheme loses both of its slashes. Every other
configuration that is accepted makes a client whose requests all have a scheme.
-/

namespace RestQuery

open Query (trimSlashes)

/-! ## Beginnings -/

namespace Text

/-- Where one slash was put between two texts, two slashes are found behind a stem
only if the first text has them, or is the stem and the other starts with a slash. -/
theorem prefix_append_slash_iff
    {stem base rest : List Char}
    (noSlash : '/' ∉ stem)
    (trimmed : base.getLast? ≠ some '/') :
    stem ++ ['/', '/'] <+: base ++ '/' :: rest ↔
      stem ++ ['/', '/'] <+: base ∨ base = stem ∧ rest.head? = some '/' := by
  constructor
  · rintro ⟨behind, whole⟩
    rw [List.append_assoc, List.append_eq_append_iff] at whole
    rcases whole with ⟨more, rfl, slashes⟩ | ⟨more, rfl, slashes⟩
    · cases more with
      | nil =>
          cases slashes
          exact .inr ⟨List.append_nil stem, rfl⟩
      | cons c more =>
          cases more with
          | nil =>
              cases slashes
              simp at trimmed
          | cons d more =>
              cases slashes
              exact .inl ⟨more, List.append_assoc ..⟩
    · cases more with
      | nil =>
          cases slashes
          exact .inr ⟨(List.append_nil base).symm, rfl⟩
      | cons c more =>
          cases slashes
          simp at noSlash
  · rintro (starts | ⟨rfl, slash⟩)
    · exact starts.trans (List.prefix_append base _)
    · obtain ⟨more, rfl⟩ := List.head?_eq_some_iff.mp slash
      exact ⟨more, List.append_assoc ..⟩

end Text

/-! ## Addresses of configurations -/

namespace Config

/-- The schemes without the slashes behind them. -/
def stems : List (List Char) := ["http:".toList, "https:".toList]

theorem hasScheme_iff {s : List Char} :
    hasScheme s = true ↔ ∃ stem ∈ stems, stem ++ ['/', '/'] <+: s := by
  rw [hasScheme, Bool.or_eq_true, Text.startsWith_iff, Text.startsWith_iff]
  simp [stems]

theorem hasScheme_of_mem_stems : ∀ stem ∈ stems, hasScheme stem = false := by decide

theorem slash_not_mem_stems : ∀ stem ∈ stems, '/' ∉ stem := by decide

/-- A longer address has the scheme, too. -/
theorem hasScheme_append
    {s : List Char}
    (scheme : hasScheme s = true)
    (rest : List Char) :
    hasScheme (s ++ rest) = true := by
  obtain ⟨stem, listed, starts⟩ := hasScheme_iff.mp scheme
  exact hasScheme_iff.mpr ⟨stem, listed, starts.trans (List.prefix_append s rest)⟩

/-- What stands behind the first slash of an address gives it no scheme, unless it
starts with the second slash of one. -/
theorem hasScheme_append_slash_iff
    {base : List Char}
    (trimmed : base.getLast? ≠ some '/')
    (rest : List Char) :
    hasScheme (base ++ '/' :: rest) = true ↔
      hasScheme base = true ∨ base ∈ stems ∧ rest.head? = some '/' := by
  simp only [hasScheme_iff]
  constructor
  · rintro ⟨stem, listed, starts⟩
    rcases (Text.prefix_append_slash_iff (slash_not_mem_stems stem listed) trimmed).mp starts with
      starts | ⟨rfl, slash⟩
    · exact .inl ⟨stem, listed, starts⟩
    · exact .inr ⟨listed, slash⟩
  · rintro (⟨stem, listed, starts⟩ | ⟨listed, slash⟩)
    · exact ⟨stem, listed, starts.trans (List.prefix_append base _)⟩
    · exact ⟨base, listed, (Text.prefix_append_slash_iff (slash_not_mem_stems base listed)
        trimmed).mpr (.inr ⟨rfl, slash⟩)⟩

/-- An address keeps its scheme without the slashes at its end, unless it has
nothing else. -/
theorem hasScheme_trimSlashes_iff (url : List Char) :
    hasScheme (trimSlashes url) = true ↔ hasScheme url = true ∧ trimSlashes url ∉ stems := by
  have noScheme (stem : trimSlashes url ∈ stems) : ¬hasScheme (trimSlashes url) = true := by
    rw [hasScheme_of_mem_stems _ stem]
    exact Bool.false_ne_true
  obtain ⟨slashes, whole⟩ := Query.exists_eq_trimSlashes_append url
  constructor
  · intro scheme
    refine ⟨?_, fun stem => noScheme stem scheme⟩
    rw [whole]
    exact hasScheme_append scheme _
  · rintro ⟨scheme, noStem⟩
    rw [whole] at scheme
    cases slashes with
    | zero => simpa using scheme
    | succ slashes =>
        rw [List.replicate_succ, hasScheme_append_slash_iff (Query.getLast?_trimSlashes url)]
          at scheme
        exact scheme.resolve_right fun stem => noStem stem.1

/-- If an address has a scheme once it is trimmed, it has it where no white space
stands in front. -/
theorem hasScheme_iff_of_trim
    {url : List Char}
    (accepted : hasScheme (Text.trim url) = true) :
    hasScheme url = true ↔ ∀ c ∈ url.head?, Text.isBlank c = false := by
  constructor
  · intro scheme
    obtain ⟨stem, listed, behind, rfl⟩ := hasScheme_iff.mp scheme
    have firsts : ∀ stem ∈ stems, ∃ rest, stem = 'h' :: rest := by
      simp [stems]
    obtain ⟨rest, rfl⟩ := firsts stem listed
    rintro c ⟨⟩
    rfl
  · intro notBlank
    have untouched : Text.trimStart url = url := by
      cases url with
      | nil => rfl
      | cons c rest => exact List.dropWhile_cons_of_neg (by simp [notBlank c rfl])
    rw [Text.trim, untouched] at accepted
    obtain ⟨dropped, whole, -⟩ := Text.exists_eq_dropEndWhile_append Text.isBlank url
    rw [whole]
    exact hasScheme_append accepted dropped

/-- The configuration was read from a document or made of variables. -/
def IsAccepted (config : Config) : Prop :=
  (∃ source, ofDocument source = .ok config) ∨ ∃ lookup, ofVariables lookup = .ok config

/-- An address that has a scheme once it is trimmed is accepted. -/
theorem IsAccepted.of_hasScheme_trim
    {url : String}
    (scheme : hasScheme (Text.trim url.toList) = true) :
    IsAccepted ⟨url, {}⟩ := by
  refine .inr ⟨fun name => if name = "PGREST_URL" then some url else none, ?_⟩
  show checked ⟨url, {}⟩ = _
  rw [checked, if_pos scheme]

theorem hasScheme_of_checked
    {config found : Config}
    (accepted : config.checked = .ok found) :
    hasScheme (Text.trim found.url.toList) = true := by
  rw [checked] at accepted
  split at accepted
  · next scheme =>
      cases accepted
      exact scheme
  · cases accepted

/-- What is accepted has a scheme once it is trimmed. -/
theorem IsAccepted.hasScheme_trim
    {config : Config}
    (accepted : config.IsAccepted) :
    hasScheme (Text.trim config.url.toList) = true := by
  rcases accepted with ⟨source, isRead⟩ | ⟨lookup, found⟩
  · unfold ofDocument at isRead
    split at isRead
    · exact hasScheme_of_checked isRead
    · cases isRead
  · unfold ofVariables at found
    split at found
    · cases found
    · exact hasScheme_of_checked found

end Config

/-! ## Addresses of requests -/

namespace Query

theorem trimSlashes_trimSlashes (url : List Char) :
    trimSlashes (trimSlashes url) = trimSlashes url := by
  obtain ⟨slashes, whole⟩ := exists_eq_trimSlashes_append url
  exact (trimSlashes_append_replicate _ slashes).symm.trans (congrArg trimSlashes whole.symm)

theorem urlChars_eq (base path : List Char) (params : List Param) :
    urlChars base path params = trimSlashes base ++ '/' :: (path ++ queryString params) := by
  rw [urlChars, List.append_assoc, List.cons_append]

/-- A request goes to a path behind a slash at the address. -/
theorem exists_toList_eq_of_request
    {base path : String}
    {settings : Settings}
    {method : Method}
    {query : Query}
    {body : Option String}
    {overrides : Headers}
    {request : Request}
    (success : query.request base path settings method body overrides = .ok request) :
    ∃ params,
      request.url.toList =
        trimSlashes base.toList ++ '/' :: (path.toList ++ queryString params) := by
  obtain ⟨params, -, rfl⟩ := request_eq_ok_iff.mp success
  exact ⟨params, String.toList_ofList.trans (urlChars_eq ..)⟩

end Query

namespace Client

/-- The addresses that a client requests: those of calls on its tables, whatever was
gathered there, and of calls of procedures; and the ones that tables tell. -/
inductive Requests (client : Client) : String → Prop
  | call
      {ρ α : Type}
      [Record ρ]
      {query : Query}
      {call : Call ρ α}
      {session : Session}
      {request : Request}
      (sent : (Table.run ⟨client, query⟩ call session).session.sent = session.sent ++ [request]) :
      Requests client request.url
  | procedure
      {procedure : String}
      {arguments : Except String Json}
      {session : Session}
      {request : Request}
      (sent : (client.call procedure arguments session).2.sent = session.sent ++ [request]) :
      Requests client request.url
  | told
      {ρ : Type}
      [Record ρ]
      {query : Query}
      {url : String}
      (isTold : (⟨client, query⟩ : Table ρ).currentUrl = .ok url) :
      Requests client url

variable {client : Client} {url : String}

/-- The request of a procedure goes to its name behind the address. -/
theorem exists_toList_eq_of_procedureRequest
    {procedure : String}
    {arguments : Except String Json}
    {request : Request}
    (success : client.procedureRequest procedure arguments = .ok request) :
    ∃ params,
      request.url.toList =
        trimSlashes client.url.toList ++
          '/' :: (("rpc/" ++ procedure).toList ++ Query.queryString params) := by
  obtain ⟨document, -, success⟩ := Sequence.bind_eq_ok_iff.mp success
  exact Query.exists_toList_eq_of_request success

/-- Everything that a client requests stands behind a slash at its address. -/
theorem Requests.exists_toList_eq
    (requests : client.Requests url) :
    ∃ behind, url.toList = trimSlashes client.url.toList ++ '/' :: behind := by
  cases requests with
  | call sent =>
      have success := (Table.sent_run_eq_append_iff ..).mp sent
      obtain ⟨adjusted, body, prepared⟩ := Call.exists_isPrepared_of_request success
      rw [Table.attempt, prepared.request_eq] at success
      obtain ⟨params, whole⟩ := Query.exists_toList_eq_of_request success
      exact ⟨_, whole⟩
  | procedure sent =>
      obtain ⟨params, whole⟩ :=
        exists_toList_eq_of_procedureRequest ((sent_call_eq_append_iff ..).mp sent)
      exact ⟨_, whole⟩
  | told isTold =>
      obtain ⟨params, -, returned⟩ := Sequence.bind_eq_ok_iff.mp isTold
      cases returned
      exact ⟨_, String.toList_ofList.trans (Query.urlChars_eq ..)⟩

/-- A procedure can always be called, and its path adds no second slash. -/
theorem exists_requests_procedure (client : Client) :
    ∃ url behind,
      client.Requests url ∧
        url.toList = trimSlashes client.url.toList ++ '/' :: behind ∧
        behind.head? = some 'r' := by
  have success : ∃ request, client.procedureRequest "f" (.ok .null) = .ok request := ⟨_, rfl⟩
  obtain ⟨request, success⟩ := success
  have sent := (sent_call_eq_append_iff client "f" (.ok .null) {} request).mpr success
  obtain ⟨params, whole⟩ := exists_toList_eq_of_procedureRequest success
  exact ⟨_, _, .procedure sent, whole, rfl⟩

/-- Every address that the client of an accepted configuration requests has one of
the two schemes exactly if the address of the configuration neither starts with
white space nor is nothing but a scheme and slashes. -/
theorem forall_hasScheme_iff
    {config : Config}
    (accepted : config.IsAccepted) :
    (∀ url, (ofConfig config).Requests url → Config.hasScheme url.toList = true) ↔
      (∀ c ∈ config.url.toList.head?, Text.isBlank c = false) ∧
        trimSlashes config.url.toList ∉ Config.stems := by
  have trimmed := Query.getLast?_trimSlashes config.url.toList
  have base : trimSlashes (ofConfig config).url.toList = trimSlashes config.url.toList := by
    rw [ofConfig, connect, String.toList_ofList, Query.trimSlashes_trimSlashes]
  rw [← Config.hasScheme_iff_of_trim accepted.hasScheme_trim, ← Config.hasScheme_trimSlashes_iff]
  constructor
  · intro each
    obtain ⟨url, behind, requests, whole, path⟩ := exists_requests_procedure (ofConfig config)
    have scheme := each url requests
    rw [whole, base, Config.hasScheme_append_slash_iff trimmed, path] at scheme
    exact scheme.resolve_right (by simp)
  · intro scheme url requests
    obtain ⟨behind, whole⟩ := requests.exists_toList_eq
    rw [whole, base]
    exact Config.hasScheme_append scheme _

/-- A blank in front of an address and an address without a host are accepted, and
then not all that the client requests has a scheme; otherwise all of it has. -/
theorem forall_hasScheme_iff_of_blank :
    (Config.IsAccepted ⟨" http://h", {}⟩ ∧
      ¬∀ url, (ofConfig ⟨" http://h", {}⟩).Requests url → Config.hasScheme url.toList = true) ∧
    (Config.IsAccepted ⟨"http://", {}⟩ ∧
      ¬∀ url, (ofConfig ⟨"http://", {}⟩).Requests url → Config.hasScheme url.toList = true) ∧
    Config.IsAccepted ⟨"https://h/", {}⟩ ∧
      ∀ url, (ofConfig ⟨"https://h/", {}⟩).Requests url → Config.hasScheme url.toList = true := by
  have blank : Config.IsAccepted ⟨" http://h", {}⟩ := .of_hasScheme_trim rfl
  have noHost : Config.IsAccepted ⟨"http://", {}⟩ := .of_hasScheme_trim rfl
  have host : Config.IsAccepted ⟨"https://h/", {}⟩ := .of_hasScheme_trim rfl
  refine ⟨⟨blank, ?blank⟩, ⟨noHost, ?noHost⟩, host, ?host⟩
  case blank =>
    rw [forall_hasScheme_iff blank]
    rintro ⟨notBlank, -⟩
    have first : " http://h".toList.head? = some ' ' := rfl
    cases notBlank ' ' first
  case noHost =>
    rw [forall_hasScheme_iff noHost]
    rintro ⟨-, noStem⟩
    have nothingElse : trimSlashes "http://".toList = "http:".toList := rfl
    apply noStem
    rw [nothingElse]
    exact List.mem_cons_self
  case host =>
    have first : "https://h/".toList.head? = some 'h' := rfl
    have trimmed : trimSlashes "https://h/".toList = "https://h".toList := rfl
    rw [forall_hasScheme_iff host, first, trimmed]
    refine ⟨?_, by decide⟩
    intro c isFirst
    obtain rfl := Option.some.inj isFirst
    rfl

end Client
end RestQuery
