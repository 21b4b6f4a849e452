import RestQuery.Proofs.Filter.Conditions
import RestQuery.Proofs.Query.Decoding
import RestQuery.Proofs.Query.Parameters
import RestQuery.Proofs.Session.Exchange
import RestQuery.Record.Catalog

/-!
# The parameters of a call

Every filter that a table has gathered is a parameter of the request that a
call sends, once and in order, unless the call deletes a single record. An
update adds the key of its record behind them. Whoever takes the address of the
request apart finds these parameters, in their place among all others. When some
filter cannot be written, the first such filter is reported and nothing is sent.
-/

namespace RestQuery

open Sequence

namespace Filter

/-- An accepted condition can be written as a parameter. -/
theorem exists_toParam_of_condition
    {column : String}
    {operator : Operator}
    {criterion : Criterion}
    {filter : Filter}
    (accepted : condition column operator criterion = .ok filter) :
    ∃ param, filter.toParam = .ok param := by
  obtain ⟨value, -, written⟩ := exists_valueChars_of_condition false accepted
  refine ⟨⟨String.ofList filter.keyChars, String.ofList value⟩, ?_⟩
  rw [toParam, written]
  rfl

/-- The filter that a key is the one of a record can be written. -/
theorem exists_toParam_of_keyFilter
    {ρ : Type}
    [Record ρ]
    {record : ρ}
    {filter : Filter}
    (found : Record.keyFilter record = .ok filter) :
    ∃ param, filter.toParam = .ok param := by
  unfold Record.keyFilter at found
  split at found
  · cases found
  · exact exists_toParam_of_condition found

end Filter

namespace Call

variable {ρ α : Type}

/-- The call looks at nothing but the key of a record. -/
def isDeleteRecord : Call ρ α → Bool
  | deleteRecord .. => true
  | _ => false

/-- The filters that a call adds behind those of the query. -/
def addedFilters [Record ρ] : Call ρ α → Except Error (List Filter)
  | update record _ => do return [← Record.keyFilter record]
  | _ => .ok []

/-- The conflict column of a call: the one that an insertion names, or else the
one of the query. -/
def conflictColumn (query : Query) : Call ρ α → Option String
  | insert _ preferences =>
      match preferences.conflictColumn with
      | some column => some column
      | none => query.conflictColumn
  | _ => query.conflictColumn

/-- The query that a call makes of the one that a table gathered. -/
def adjustedQuery
    (query : Query)
    (added : List Filter)
    (call : Call ρ α) :
    Query :=
  { query with
    filters := query.filters ++ added
    conflictColumn := call.conflictColumn query }

/-- A call keeps all filters, adds its own behind them, and changes nothing else
but the conflict column. -/
theorem exists_addedFilters_of_adjust
    [Record ρ]
    {call : Call ρ α}
    (keeps : call.isDeleteRecord = false)
    {query adjusted : Query}
    (isAdjusted : call.adjust query = .ok adjusted) :
    ∃ added,
      call.addedFilters = .ok added ∧
        adjusted = call.adjustedQuery query added ∧
        ∀ filter ∈ added, ∃ param, filter.toParam = .ok param := by
  cases call with
  | get | single | delete =>
      cases isAdjusted
      exact ⟨[], rfl, by simp [adjustedQuery, conflictColumn], by simp⟩
  | insert payload preferences =>
      cases isAdjusted
      refine ⟨[], rfl, ?_, by simp⟩
      cases column : preferences.conflictColumn <;>
        simp [adjustedQuery, conflictColumn, column]
  | update record preferences =>
      obtain ⟨filter, found, returned⟩ := bind_eq_ok_iff.mp isAdjusted
      cases returned
      refine ⟨[filter], ?_, rfl, ?_⟩
      · rw [addedFilters, found]
        rfl
      · simpa using Filter.exists_toParam_of_keyFilter found
  | deleteRecord record preferences => cases keeps
  | count strategy =>
      cases strategy <;> cases isAdjusted <;>
        exact ⟨[], rfl, by simp [adjustedQuery, conflictColumn], by simp⟩

/-- Nothing of a call fails before its filters are written. -/
structure IsPrepared
    [Record ρ]
    (query adjusted : Query)
    (body : Option String)
    (call : Call ρ α) : Prop where
  adjust_eq : call.adjust query = .ok adjusted
  body_eq : call.body = .ok body

/-- Once a call is prepared, its request is the one for the adjusted query. -/
theorem IsPrepared.request_eq
    [Record ρ]
    {client : Client}
    {query adjusted : Query}
    {body : Option String}
    {call : Call ρ α}
    (prepared : call.IsPrepared query adjusted body) :
    call.request client query =
      adjusted.request client.url (Record.table ρ) client.settings call.method body
        call.headers := by
  rw [request, prepared.adjust_eq]
  show (do let body ← call.body; _) = _
  rw [prepared.body_eq]
  rfl

/-- A call with a request is prepared. -/
theorem exists_isPrepared_of_request
    [Record ρ]
    {client : Client}
    {query : Query}
    {call : Call ρ α}
    {sent : Request}
    (isRequest : call.request client query = .ok sent) :
    ∃ adjusted body, call.IsPrepared query adjusted body := by
  obtain ⟨adjusted, adjust_eq, isRequest⟩ := bind_eq_ok_iff.mp isRequest
  obtain ⟨body, body_eq, -⟩ := bind_eq_ok_iff.mp isRequest
  exact ⟨adjusted, body, adjust_eq, body_eq⟩

/-- The request of a call carries the body of the call. -/
theorem body_eq_of_request
    [Record ρ]
    {client : Client}
    {query : Query}
    {call : Call ρ α}
    {sent : Request}
    (isRequest : call.request client query = .ok sent) :
    call.body = .ok sent.body := by
  obtain ⟨adjusted, body, prepared⟩ := exists_isPrepared_of_request isRequest
  rw [prepared.request_eq, Query.request_eq_ok_iff] at isRequest
  obtain ⟨params, -, rfl⟩ := isRequest
  exact prepared.body_eq

end Call

namespace Table

variable {ρ α : Type}

/-- A call has sent just the request that it attempts. -/
theorem sent_run_eq_append_iff
    [Record ρ]
    (table : Table ρ)
    (call : Call ρ α)
    (session : Session)
    (request : Request) :
    (table.run call session).session.sent = session.sent ++ [request] ↔
      table.attempt call = .ok request := by
  rw [sent_run, List.append_cancel_left_eq]
  cases table.attempt call <;> simp [Except.toOption]

/-- The parameters of a call other than the deletion of a record, given those of all
filters. -/
def requestedParams (table : Table ρ) (call : Call ρ α) (filters : List Param) : List Param :=
  Query.arrangedParams table.client.settings filters
    { table.query with conflictColumn := call.conflictColumn table.query }

theorem exists_params_of_attempt
    [Record ρ]
    {table : Table ρ}
    {call : Call ρ α}
    (keeps : call.isDeleteRecord = false)
    {request : Request}
    (success : table.attempt call = .ok request) :
    ∃ added filters,
      call.addedFilters = .ok added ∧
        List.Forall₂ (fun filter param => filter.toParam = .ok param)
          (table.query.filters ++ added) filters ∧
        Query.IsAddress table.client.url (Record.table ρ) (table.requestedParams call filters)
          request.url := by
  obtain ⟨adjusted, body, prepared⟩ := Call.exists_isPrepared_of_request success
  obtain ⟨added, areAdded, rfl, -⟩ :=
    Call.exists_addedFilters_of_adjust keeps prepared.adjust_eq
  rw [attempt, prepared.request_eq, Query.request_eq_ok_iff] at success
  obtain ⟨params, written, rfl⟩ := success
  obtain ⟨filters, each, rfl⟩ := Query.params_eq_ok_iff.mp written
  exact ⟨added, filters, areAdded, each, Query.isAddress_urlChars ..⟩

theorem exists_attempt_eq_ok
    [Record ρ]
    {table : Table ρ}
    {call : Call ρ α}
    (keeps : call.isDeleteRecord = false)
    {adjusted : Query}
    {body : Option String}
    (prepared : call.IsPrepared table.query adjusted body)
    (writable : ∀ filter ∈ table.query.filters, ∃ param, filter.toParam = .ok param) :
    ∃ request, table.attempt call = .ok request := by
  obtain ⟨added, -, rfl, addedWritable⟩ :=
    Call.exists_addedFilters_of_adjust keeps prepared.adjust_eq
  obtain ⟨filters, each⟩ := exists_forall₂
    (List.forall_mem_append.mpr ⟨writable, addedWritable⟩)
  have written : (call.adjustedQuery table.query added).params table.client.settings = _ :=
    Query.params_eq_ok_iff.mpr ⟨filters, each, rfl⟩
  rw [attempt, prepared.request_eq]
  exact ⟨_, Query.request_eq_ok_iff.mpr ⟨_, written, rfl⟩⟩

theorem attempt_eq_error_of_firstFault
    [Record ρ]
    {table : Table ρ}
    {call : Call ρ α}
    (keeps : call.isDeleteRecord = false)
    {adjusted : Query}
    {body : Option String}
    (prepared : call.IsPrepared table.query adjusted body)
    {error : Error}
    (fault : Query.FirstFault table.query.filters error) :
    table.attempt call = .error error := by
  obtain ⟨added, -, rfl, -⟩ := Call.exists_addedFilters_of_adjust keeps prepared.adjust_eq
  rw [attempt, prepared.request_eq, Query.request_eq_error_iff, Query.params_eq_error_iff]
  exact fault.append added

/-- For every call but the deletion of a single record: the address of the request
that it sends is read as one parameter for each filter of the table, and for the
key of an updated record behind them, in their place among all others; a prepared
call sends a request if all filters of the table can be written; and otherwise it
fails as the first one does that cannot, and sends nothing. -/
theorem run_params
    [Record ρ]
    (table : Table ρ)
    (call : Call ρ α)
    (keeps : call.isDeleteRecord = false)
    (session : Session) :
    (∀ request,
      (table.run call session).session.sent = session.sent ++ [request] →
        ∃ added filters,
          call.addedFilters = .ok added ∧
            List.Forall₂ (fun filter param => filter.toParam = .ok param)
              (table.query.filters ++ added) filters ∧
            Query.IsAddress table.client.url (Record.table ρ)
              (table.requestedParams call filters) request.url) ∧
    ∀ adjusted body, call.IsPrepared table.query adjusted body →
      ((∀ filter ∈ table.query.filters, ∃ param, filter.toParam = .ok param) →
        ∃ request, (table.run call session).session.sent = session.sent ++ [request]) ∧
      ∀ error, Query.FirstFault table.query.filters error →
        (table.run call session).answer = .error error ∧
          (table.run call session).session.sent = session.sent := by
  refine ⟨fun request sent => ?_, fun adjusted body prepared =>
    ⟨fun writable => ?_, fun error fault => ?_⟩⟩
  · exact exists_params_of_attempt keeps ((sent_run_eq_append_iff table call session request).mp sent)
  · obtain ⟨request, success⟩ := exists_attempt_eq_ok keeps prepared writable
    exact ⟨request, (sent_run_eq_append_iff table call session request).mpr success⟩
  · rw [run_of_attempt_eq_error (attempt_eq_error_of_firstFault keeps prepared fault)]
    exact ⟨rfl, rfl⟩

/-- An update is sent with all that its table has gathered, and with the key of its record
behind the filters: of two orderings of one table the last one counts, and a projection has
no blanks. An insertion brings a conflict column of its own. An update is not sent when the
second of its filters is an empty group. -/
theorem run_params_users :
    let client := Client.connect "http://localhost/"
      ((({} : Settings).withParam "tenant" "7&8").withApiKey "secret")
    let query : Query :=
      { filters := [.isNull "status", .not (.comparison "age" .greater (.int 30))]
        orderings :=
          [⟨none, "status", .ascending, .last⟩, ⟨some "messages", "id", .ascending, .last⟩,
            ⟨none, "age", .descending, .first⟩]
        projection := some " username,\tstatus\u00A0"
        limit := some ⟨10, none⟩
        offset := some ⟨20, some "messages"⟩
        conflictColumn := some "id" }
    (∃ request,
      (Table.run ⟨client, query⟩
          (.update (⟨"ann", none, none, none⟩ : Catalog.User) {}) {}).session.sent = [request] ∧
        Query.IsAddress "http://localhost" "users"
          [⟨"tenant", "7&8"⟩, ⟨"apikey", "secret"⟩, ⟨"status", "is.null"⟩,
            ⟨"age", "not.gt.30"⟩, ⟨"username", "eq.ann"⟩, ⟨"order", "age.desc.nullsfirst"⟩,
            ⟨"messages.order", "id.asc.nullslast"⟩, ⟨"select", "username,status"⟩,
            ⟨"on_conflict", "id"⟩, ⟨"limit", "10"⟩, ⟨"messages.offset", "20"⟩]
          request.url) ∧
    (∃ request,
      (Table.run
          ⟨.connect "http://localhost" {},
            { filters := [.isNull "status"], projection := some "\n", conflictColumn := some "id" }⟩
          (.insert (.one (⟨"ann", none, none, none⟩ : Catalog.User))
            { conflictColumn := some "username" }) {}).session.sent = [request] ∧
        Query.IsAddress "http://localhost" "users"
          [⟨"status", "is.null"⟩, ⟨"on_conflict", "username"⟩] request.url) ∧
    (Table.run
        ⟨.connect "http://localhost" {}, { filters := [.isNull "status", .and []] }⟩
        (.update (⟨"ann", none, none, none⟩ : Catalog.User) {}) {}).session.sent = [] := by
  intro client query
  refine ⟨?_, ?_, ?_⟩
  · have writable : ∀ filter ∈ query.filters, ∃ param, filter.toParam = .ok param :=
      List.forall_mem_cons.mpr ⟨⟨_, rfl⟩, List.forall_mem_singleton.mpr ⟨_, rfl⟩⟩
    obtain ⟨reads, sends⟩ := run_params ⟨client, query⟩
      (.update (⟨"ann", none, none, none⟩ : Catalog.User) {}) rfl {}
    obtain ⟨request, sent⟩ := (sends _ _ ⟨rfl, rfl⟩).1 writable
    obtain ⟨added, filters, areAdded, each, address⟩ := reads request sent
    cases areAdded
    cases mapM_eq_ok_iff.mpr each
    exact ⟨request, sent, address⟩
  · obtain ⟨reads, sends⟩ := run_params
      ⟨.connect "http://localhost" {},
        { filters := [.isNull "status"], projection := some "\n", conflictColumn := some "id" }⟩
      (.insert (.one (⟨"ann", none, none, none⟩ : Catalog.User))
        { conflictColumn := some "username" }) rfl {}
    obtain ⟨request, sent⟩ := (sends _ _ ⟨rfl, rfl⟩).1 (List.forall_mem_singleton.mpr ⟨_, rfl⟩)
    obtain ⟨added, filters, areAdded, each, address⟩ := reads request sent
    cases areAdded
    cases mapM_eq_ok_iff.mpr each
    exact ⟨request, sent, address⟩
  · refine (((run_params _ _ rfl {}).2 _ _ ⟨rfl, rfl⟩).2 (.usage (.emptyGroup .and)) ?_).2
    exact ⟨[.isNull "status"], .and [], [], rfl, List.forall_mem_singleton.mpr ⟨_, rfl⟩, rfl⟩

end Table
end RestQuery
