import RestQuery.Session.Table

/-!
# What a call does

A call sends the request that its query amounts to, or fails without sending
anything. Which of the two happens, and with which request or error, depends on
the client and the query of the table and on nothing else; the answer depends
on the reply besides.
-/

namespace RestQuery

/-- A response that tells success is accepted. -/
theorem Reply.accepted_of_isSuccess
    {response : Response}
    (success : response.isSuccess = true) :
    (Reply.response response).accepted = .ok response := by
  rw [accepted, success, if_pos rfl]

namespace Table

variable {ρ α : Type}

/-- The request that a call would send now. -/
def attempt [Record ρ] (table : Table ρ) (call : Call ρ α) : Except Error Request :=
  call.request table.client table.query

/-- A call without a request fails, and reports only that the table starts
over. -/
theorem run_of_attempt_eq_error
    [Record ρ]
    {table : Table ρ}
    {call : Call ρ α}
    {error : Error}
    (failure : table.attempt call = .error error)
    (session : Session) :
    table.run call session =
      ⟨.error error, table.fresh, session.report (.cleared (Record.table ρ))⟩ := by
  rw [attempt] at failure
  unfold run clear
  rw [failure]

/-- A call with a request sends it and answers what the reply amounts to. -/
theorem run_of_attempt_eq_ok
    [Record ρ]
    {table : Table ρ}
    {call : Call ρ α}
    {request : Request}
    (success : table.attempt call = .ok request)
    (session : Session) :
    table.run call session =
      ⟨call.read session.nextReply.accepted, table.fresh,
        (session.report (.cleared (Record.table ρ))).exchange request⟩ := by
  rw [attempt] at success
  unfold run clear
  rw [success]
  rfl

/-- A call leaves the table with nothing gathered. -/
theorem table_run
    [Record ρ]
    (table : Table ρ)
    (call : Call ρ α)
    (session : Session) :
    (table.run call session).table = table.fresh := by
  cases result : table.attempt call with
  | error error => rw [run_of_attempt_eq_error result]
  | ok request => rw [run_of_attempt_eq_ok result]

/-- A call sends its request, if there is one. -/
theorem sent_run
    [Record ρ]
    (table : Table ρ)
    (call : Call ρ α)
    (session : Session) :
    (table.run call session).session.sent =
      session.sent ++ (table.attempt call).toOption.toList := by
  cases result : table.attempt call with
  | error error =>
      rw [run_of_attempt_eq_error result]
      exact (List.append_nil _).symm
  | ok request =>
      rw [run_of_attempt_eq_ok result]
      rfl

/-- A call takes the reply to its request, if there is one. -/
theorem waiting_run
    [Record ρ]
    (table : Table ρ)
    (call : Call ρ α)
    (session : Session) :
    (table.run call session).session.waiting =
      session.waiting.drop (table.attempt call).toOption.toList.length := by
  cases result : table.attempt call with
  | error error =>
      rw [run_of_attempt_eq_error result]
      rfl
  | ok request =>
      rw [run_of_attempt_eq_ok result]
      exact List.drop_one.symm

/-- A call fails as its request does, or answers what the reply amounts to. -/
theorem answer_run
    [Record ρ]
    (table : Table ρ)
    (call : Call ρ α)
    (session : Session) :
    (table.run call session).answer =
      table.attempt call >>= fun _ => call.read session.nextReply.accepted := by
  cases result : table.attempt call with
  | error error =>
      rw [run_of_attempt_eq_error result]
      rfl
  | ok request =>
      rw [run_of_attempt_eq_ok result]
      rfl

/-- A call at one table and the same call at another send the same request, or
fail with the same error before they send any. -/
def CallsAlike
    [Record ρ]
    (call : Call ρ α)
    (table : Table ρ)
    (session : Session)
    (table' : Table ρ)
    (session' : Session) : Prop :=
  (∃ request,
    (table.run call session).session.sent = session.sent ++ [request] ∧
      (table'.run call session').session.sent = session'.sent ++ [request]) ∨
    ∃ error,
      ((table.run call session).session.sent = session.sent ∧
        (table.run call session).answer = .error error) ∧
      (table'.run call session').session.sent = session'.sent ∧
        (table'.run call session').answer = .error error

/-- The conversations around two calls make no difference to what the calls
send. -/
theorem callsAlike_self
    [Record ρ]
    (call : Call ρ α)
    (table : Table ρ)
    (session session' : Session) :
    CallsAlike call table session table session' := by
  rw [CallsAlike, sent_run, sent_run, answer_run, answer_run]
  cases table.attempt call with
  | error error => exact .inr ⟨error, ⟨List.append_nil _, rfl⟩, List.append_nil _, rfl⟩
  | ok request => exact .inl ⟨request, rfl, rfl⟩

end Table

namespace Client

variable (client : Client) (procedure : String) (arguments : Except String Json)
  (session : Session)

/-- A procedure call sends its request, if there is one. -/
theorem sent_call :
    (client.call procedure arguments session).2.sent =
      session.sent ++ (client.procedureRequest procedure arguments).toOption.toList := by
  unfold call
  cases client.procedureRequest procedure arguments with
  | error error => exact (List.append_nil _).symm
  | ok request => rfl

/-- A procedure call has sent just the request that it attempts. -/
theorem sent_call_eq_append_iff (request : Request) :
    (client.call procedure arguments session).2.sent = session.sent ++ [request] ↔
      client.procedureRequest procedure arguments = .ok request := by
  rw [sent_call, List.append_cancel_left_eq]
  cases client.procedureRequest procedure arguments <;> simp [Except.toOption]

/-- A procedure call takes the reply to its request, if there is one. -/
theorem waiting_call :
    (client.call procedure arguments session).2.waiting =
      session.waiting.drop
        (client.procedureRequest procedure arguments).toOption.toList.length := by
  unfold call
  cases client.procedureRequest procedure arguments with
  | error error => rfl
  | ok request => exact List.drop_one.symm

/-- A procedure call fails as its request does, or answers the response. -/
theorem answer_call :
    (client.call procedure arguments session).1 =
      client.procedureRequest procedure arguments >>= fun _ => session.nextReply.accepted := by
  unfold call
  cases client.procedureRequest procedure arguments <;> rfl

end Client
end RestQuery
