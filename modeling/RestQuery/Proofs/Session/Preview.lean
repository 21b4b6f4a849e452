import RestQuery.Proofs.Session.Parameters
import RestQuery.Proofs.Text.Cutting

/-!
# The address told in advance

A table tells the address that its query requests now; it is a value, so telling
changes nothing in it. Reads, deletions, counts and insertions without a conflict
column of their own, whether or not they may change what is there already, leave
the query as it is. So they request this very address, and where it cannot be told
they fail for the same reason. Slashes at the end of a server's address are no
part of it.
-/

namespace RestQuery

namespace Query

/-- A query has a request exactly if it has an address, and the request goes there. -/
theorem request_eq_map
    (base path : String)
    (settings : Settings)
    (method : Method)
    (query : Query)
    (body : Option String)
    (overrides : Headers) :
    query.request base path settings method body overrides =
      (query.url base path settings).map fun url =>
        { method, url, headers := query.headers settings method body.isSome overrides, body } := by
  rw [request]
  cases query.url base path settings <;> rfl

/-- Slashes behind an address are cut off. -/
theorem trimSlashes_append_replicate (url : List Char) (slashes : Nat) :
    trimSlashes (url ++ List.replicate slashes '/') = trimSlashes url := by
  refine Text.dropEndWhile_append_of_all ?_ url
  intro c member
  rw [List.eq_of_mem_replicate member]
  rfl

end Query

namespace Call

variable {ρ α : Type} [Record ρ]

/-- The call requests the query of its table as it is, and has a body that can be
written if it has one. -/
def KeepsQuery : Call ρ α → Prop
  | get => True
  | single => True
  | insert payload preferences =>
      preferences.conflictColumn = none ∧ ∃ text, payload.text = .ok text
  | update .. => False
  | delete _ => True
  | deleteRecord .. => False
  | count strategy => strategy ≠ .none

/-- Such a call is prepared with the query itself. -/
theorem KeepsQuery.exists_isPrepared
    {call : Call ρ α}
    (keeps : call.KeepsQuery)
    (query : Query) :
    ∃ body, call.IsPrepared query query body := by
  cases call with
  | get | single | delete => exact ⟨none, rfl, rfl⟩
  | insert payload preferences =>
      obtain ⟨noColumn, text, written⟩ := keeps
      refine ⟨some text, ?_, ?_⟩
      · rw [adjust, noColumn]
        rfl
      · rw [body, written]
        rfl
  | update | deleteRecord => exact keeps.elim
  | count strategy =>
      refine ⟨none, ?_, rfl⟩
      rw [adjust, if_neg keeps]

end Call

/-- Slashes at the end of an address make no difference to a client. -/
theorem Client.connect_append_slashes
    (base : String)
    (slashes : Nat)
    (settings : Settings) :
    connect (base ++ String.ofList (List.replicate slashes '/')) settings =
      connect base settings := by
  rw [connect, String.toList_append, String.toList_ofList, Query.trimSlashes_append_replicate]
  rfl

namespace Table

variable {ρ α : Type} [Record ρ]

/-- A call that keeps the query has a request exactly if the table tells an address,
and the request goes there. -/
theorem exists_attempt_eq_map
    (table : Table ρ)
    {call : Call ρ α}
    (keeps : call.KeepsQuery) :
    ∃ headers body,
      table.attempt call =
        table.currentUrl.map fun url => { method := call.method, url, headers, body } := by
  obtain ⟨body, prepared⟩ := keeps.exists_isPrepared table.query
  have attempt_eq : table.attempt call = _ := prepared.request_eq
  rw [Query.request_eq_map] at attempt_eq
  exact ⟨_, body, attempt_eq⟩

/-- A read, a deletion by filters, a count and an insertion that can be written and
names no conflict column requests the address that the table tells; where the
table tells none, the call fails for the same reason and sends nothing. The
client of a server is the same however many slashes stand behind its address. -/
theorem run_of_currentUrl
    (table : Table ρ)
    (call : Call ρ α)
    (keeps : call.KeepsQuery)
    (session : Session) :
    (∀ url, table.currentUrl = .ok url →
      ∃ request,
        (table.run call session).session.sent = session.sent ++ [request] ∧
          request.url = url) ∧
    (∀ error, table.currentUrl = .error error →
      (table.run call session).answer = .error error ∧
        (table.run call session).session.sent = session.sent) ∧
    ∀ base settings slashes,
      Client.connect (base ++ String.ofList (List.replicate slashes '/')) settings =
        Client.connect base settings := by
  obtain ⟨headers, body, attempt_eq⟩ := table.exists_attempt_eq_map keeps
  refine ⟨fun url isUrl => ?_, fun error noUrl => ?_, fun base settings slashes =>
    Client.connect_append_slashes base slashes settings⟩
  · have success : table.attempt call = .ok { method := call.method, url, headers, body } := by
      rw [attempt_eq, isUrl]
      rfl
    exact ⟨_, (sent_run_eq_append_iff ..).mpr success, rfl⟩
  · have failure : table.attempt call = .error error := by
      rw [attempt_eq, noUrl]
      rfl
    rw [run_of_attempt_eq_error failure]
    exact ⟨rfl, rfl⟩

/-- Counting users requests the address that was told, and inserting one behind an
empty group fails as the address does. -/
theorem run_of_currentUrl_users :
    (∃ request,
      (Table.run
        (⟨.connect "http://localhost//" {}, { filters := [.isNull "status"] }⟩ :
          Table Catalog.User)
        (.count .exact) {}).session.sent = [request] ∧
      request.url = "http://localhost/users?status=is.null") ∧
    (let outcome :=
      Table.run
        (⟨.connect "http://localhost" {}, { filters := [.and []] }⟩ : Table Catalog.User)
        (.insert (.one ⟨"ann", none, none, none⟩) {}) {}
    outcome.answer = .error (.usage (.emptyGroup .and)) ∧ outcome.session.sent = []) := by
  have counts : (Call.count .exact : Call Catalog.User UInt64).KeepsQuery := by
    intro same
    cases same
  have inserts :
      (Call.insert (.one ⟨"ann", none, none, none⟩) {} : Call Catalog.User _).KeepsQuery :=
    ⟨rfl, _, rfl⟩
  exact ⟨(run_of_currentUrl _ _ counts {}).1 _ rfl,
    (run_of_currentUrl _ _ inserts {}).2.1 (.usage (.emptyGroup .and)) rfl⟩

end Table
end RestQuery
