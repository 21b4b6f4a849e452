import RestQuery.Proofs.Http.Merging
import RestQuery.Proofs.Session.Parameters

/-!
# The headers of a call

What a call asks for in its headers is merged over everything else that a request
says. So whatever the settings have, in whatever spelling, a change is asked for
with the preferences of its call, and a single row with the media type of one.
-/

namespace RestQuery

open Headers

/-- The preferences of a call stand in its headers, once. -/
theorem Preferences.spelled_toHeaders (preferences : Preferences) :
    preferences.toHeaders.spelled Headers.prefer =
      [(Headers.prefer, preferences.prefer)] := by
  have apart : foldName Headers.accept ≠ foldName Headers.prefer := by decide
  unfold toHeaders
  split
  · rw [spelled_insert_of_ne _ _ apart, spelled_insert_empty]
  · rw [spelled_insert_empty]

namespace Call

variable {ρ α : Type}

/-- The preferences of a call that changes rows. -/
def preferences? : Call ρ α → Option Preferences
  | get => none
  | single => none
  | insert _ preferences => some preferences
  | update _ preferences => some preferences
  | delete preferences => some preferences
  | deleteRecord _ preferences => some preferences
  | count _ => none

theorem headers_of_preferences?
    {call : Call ρ α}
    {preferences : Preferences}
    (changes : call.preferences? = some preferences) :
    call.headers = preferences.toHeaders := by
  cases call with
  | get | single | count => cases changes
  | insert | update | delete | deleteRecord =>
      cases changes
      rfl

/-- A call for a single row asks for the media type of one, once. -/
theorem spelled_singleHeaders :
    singleHeaders.spelled Headers.accept = [(Headers.accept, Headers.objectJson)] := by
  have apart : foldName Headers.prefer ≠ foldName Headers.accept := by decide
  rw [singleHeaders, spelled_insert_of_ne _ _ apart, spelled_insert_empty]

/-- The headers of a request are those of its call, merged over those that the
client's settings, the query and the body call for. -/
theorem exists_headers_of_request
    [Record ρ]
    {client : Client}
    {query : Query}
    {call : Call ρ α}
    {sent : Request}
    (isRequest : call.request client query = .ok sent) :
    ∃ adjusted : Query,
      ∃ hasBody,
        sent.headers =
          adjusted.headers client.settings call.method hasBody call.headers := by
  obtain ⟨adjusted, body, prepared⟩ := exists_isPrepared_of_request isRequest
  rw [prepared.request_eq, Query.request_eq_ok_iff] at isRequest
  obtain ⟨params, -, rfl⟩ := isRequest
  exact ⟨adjusted, body.isSome, rfl⟩

end Call

namespace Query

/-- A header that a call has once is in its request what the call says it is. -/
theorem spelled_headers_of_eq_singleton
    (settings : Settings)
    (method : Method)
    (query : Query)
    (hasBody : Bool)
    {overrides : Headers}
    {name : String}
    {entry : String × String}
    (once : overrides.spelled name = [entry]) :
    (query.headers settings method hasBody overrides).spelled name = [entry] :=
  spelled_merge_of_eq_singleton _ once

end Query

namespace Table

variable {ρ α : Type}

/-- A header that a call has once is in the request that is sent what the call says
it is. -/
theorem spelled_sent_of_eq_singleton
    [Record ρ]
    {table : Table ρ}
    {call : Call ρ α}
    {session : Session}
    {request : Request}
    (sent : (table.run call session).session.sent = session.sent ++ [request])
    {name : String}
    {entry : String × String}
    (once : call.headers.spelled name = [entry]) :
    request.headers.spelled name = [entry] := by
  have isRequest := (sent_run_eq_append_iff table call session request).mp sent
  obtain ⟨adjusted, hasBody, same⟩ := Call.exists_headers_of_request isRequest
  rw [same]
  exact Query.spelled_headers_of_eq_singleton _ _ adjusted hasBody once

/-- Two names are the same header if they have the same characters but for the case of
ASCII letters. Headers are merged name by name: of the overriding spellings of a name the
last one stays, alone, and a name that is not overridden keeps its entries. So merging
twice is merging once; the headers of a change, whatever its settings, method, query and body,
have the preferences of the call under one spelling of `Prefer`, and those of a call
for a single row have the media type of one under one spelling of `Accept`. This holds
of the requests that the calls on a table send. -/
theorem merged_headers_of_sent
    [Record ρ]
    (table : Table ρ)
    (session : Session) :
    (∀ left right : String,
      sameName left right = true ↔ List.Forall₂ SameButForCase left.toList right.toList) ∧
    (∀ (base overrides : Headers) (name : String),
      (overrides.spelled name = [] ∧
          (base.merge overrides).spelled name = base.spelled name) ∨
        ∃ last,
          overrides.IsLastSpelling name last ∧
            (base.merge overrides).spelled name = [last]) ∧
    (∀ base overrides : Headers,
      (base.merge overrides).merge overrides = base.merge overrides) ∧
    (∀ (settings : Settings) (method : Method) (query : Query) (hasBody : Bool),
      (∀ preferences : Preferences,
        (query.headers settings method hasBody preferences.toHeaders).spelled
            Headers.prefer =
          [(Headers.prefer, preferences.prefer)]) ∧
      (query.headers settings method hasBody Call.singleHeaders).spelled Headers.accept =
        [(Headers.accept, Headers.objectJson)]) ∧
    (∀ {α : Type} (call : Call ρ α) (preferences : Preferences) (request : Request),
      call.preferences? = some preferences →
        (table.run call session).session.sent = session.sent ++ [request] →
          request.headers.spelled Headers.prefer =
            [(Headers.prefer, preferences.prefer)]) ∧
    ∀ request,
      (table.run .single session).session.sent = session.sent ++ [request] →
        request.headers.spelled Headers.accept =
          [(Headers.accept, Headers.objectJson)] := by
  refine ⟨fun _ _ => sameName_iff_forall₂, spelled_merge, merge_merge, ?_, ?_, ?_⟩
  · intro settings method query hasBody
    constructor
    · intro preferences
      exact Query.spelled_headers_of_eq_singleton settings method query hasBody
        preferences.spelled_toHeaders
    · exact Query.spelled_headers_of_eq_singleton settings method query hasBody
        Call.spelled_singleHeaders
  · intro α call preferences request changes sent
    apply spelled_sent_of_eq_singleton sent
    rw [Call.headers_of_preferences? changes]
    exact preferences.spelled_toHeaders
  · intro request sent
    exact spelled_sent_of_eq_singleton sent Call.spelled_singleHeaders

/-- Whatever a client is set to prefer and to accept, the deletion of rows is sent with
the preferences of its call, and the call for a single row with the type of one. -/
theorem merged_headers_of_sent_users :
    let settings :=
      (({} : Settings).withHeader "PREFER" "count=exact").withHeader "accept" "text/csv"
    let table : Table Catalog.User := ⟨.connect "http://localhost" settings, {}⟩
    (∃ request,
      (table.run (.delete { returning := .minimal }) {}).session.sent = [request] ∧
        request.headers.spelled Headers.prefer = [(Headers.prefer, "return=minimal")] ∧
        request.headers.entries =
          [("Accept", "*/*"), ("Content-Profile", "public"), ("Prefer", "return=minimal"),
            ("X-Client-Info", "pgrest-rs/0.1.5")]) ∧
    ∃ request,
      (table.run .single {}).session.sent = [request] ∧
        request.headers.spelled Headers.accept = [(Headers.accept, Headers.objectJson)] ∧
        request.headers.entries =
          [("Accept", "application/vnd.pgrst.object+json"), ("Accept-Profile", "public"),
            ("Prefer", "return=representation"), ("X-Client-Info", "pgrest-rs/0.1.5")] := by
  intro settings table
  obtain ⟨-, -, -, -, ofChange, ofSingle⟩ := merged_headers_of_sent table {}
  constructor
  · have asked : Preferences.prefer { returning := .minimal } = "return=minimal" := by decide
    refine ⟨_, rfl, ?_, ?_⟩
    · rw [← asked]
      exact ofChange (.delete { returning := .minimal }) _ _ rfl rfl
    · decide
  · exact ⟨_, rfl, ofSingle _ rfl, by decide⟩

end Table
end RestQuery
