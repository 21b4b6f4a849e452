import RestQuery.Proofs.Filter.Acceptance
import RestQuery.Proofs.Session.Exchange

/-!
# What an answer tells about a call

A call that fails before its request is put together has sent nothing; any
other call has sent that request, once. The kind of a failure tells which of
the two has happened: what fails early and what fails late are different kinds
of failures. The steps of a call are gone through one by one for this, and a
chain of steps fails as one of its steps does.
-/

namespace RestQuery

open Sequence

/-! ## Kinds of failures -/

namespace Error

/-- The failures of putting a request together. -/
def isEarly : Error → Bool
  | usage _ | missingPrimaryKey _ | serialize _ => true
  | _ => false

/-- The failures of reading a response that was accepted. -/
def isMisread : Error → Bool
  | decode _ | invalidContentRange _ => true
  | _ => false

/-- The failures of a request that was sent. -/
def isLate : Error → Bool
  | transport _ | rejected .. => true
  | error => error.isMisread

theorem isEarly_of_isUsage {error : Error} (usage : error.isUsage = true) :
    error.isEarly = true := by
  cases error <;> first | rfl | cases usage

theorem isEarly_eq_false_of_isLate {error : Error} (late : error.isLate = true) :
    error.isEarly = false := by
  cases error <;> first | rfl | cases late

end Error

/-! ## Putting a request together -/

theorem Error.failsOnly_ofWriting (document : Except String Json) :
    FailsOnly isEarly (ofWriting document) := by
  cases document with
  | error cause => exact .of_error rfl
  | ok json => exact .of_ok

theorem Filter.failsOnly_toParam_early (filter : Filter) :
    FailsOnly Error.isEarly filter.toParam :=
  filter.failsOnly_toParam.mono fun _ => Error.isEarly_of_isUsage

theorem Query.failsOnly_request
    (base path : String)
    (settings : Settings)
    (method : Method)
    (query : Query)
    (body : Option String)
    (overrides : Headers) :
    FailsOnly Error.isEarly (query.request base path settings method body overrides) := by
  have params : FailsOnly Error.isEarly (query.params settings) :=
    (FailsOnly.mapM fun filter _ => filter.failsOnly_toParam_early).bind fun _ => .of_pure
  exact (params.bind fun _ => .of_pure).bind fun _ => .of_pure

namespace Call

variable {ρ α : Type}

theorem failsOnly_keyFilter [Record ρ] (record : ρ) :
    FailsOnly Error.isEarly (Record.keyFilter record) := by
  rw [Record.keyFilter]
  split
  · exact .of_error rfl
  · exact (Filter.failsOnly_condition ..).mono fun _ => Error.isEarly_of_isUsage

theorem failsOnly_text [Record ρ] (payload : Payload ρ) :
    FailsOnly Error.isEarly payload.text := by
  have each (record : ρ) : FailsOnly Error.isEarly (Record.encode record) :=
    Error.failsOnly_ofWriting _
  refine FailsOnly.bind ?_ fun _ => .of_pure
  cases payload with
  | one record => exact each record
  | many records => exact (FailsOnly.mapM fun record _ => each record).bind fun _ => .of_pure

theorem failsOnly_adjust [Record ρ] (query : Query) (call : Call ρ α) :
    FailsOnly Error.isEarly (call.adjust query) := by
  cases call with
  | get | single | insert | delete => exact .of_ok
  | update record preferences => exact (failsOnly_keyFilter record).bind fun _ => .of_pure
  | deleteRecord record preferences => exact (failsOnly_keyFilter record).bind fun _ => .of_pure
  | count strategy =>
      rw [adjust]
      split
      · exact .of_error rfl
      · exact .of_ok

theorem failsOnly_body [Record ρ] (call : Call ρ α) : FailsOnly Error.isEarly call.body := by
  cases call with
  | get | single | delete | deleteRecord | count => exact .of_ok
  | insert payload preferences => exact (failsOnly_text payload).bind fun _ => .of_pure
  | update record preferences => exact (failsOnly_text (.one record)).bind fun _ => .of_pure

theorem failsOnly_request [Record ρ] (client : Client) (query : Query) (call : Call ρ α) :
    FailsOnly Error.isEarly (call.request client query) :=
  (failsOnly_adjust query call).bind fun _ =>
    (failsOnly_body call).bind fun _ => Query.failsOnly_request ..

end Call

theorem Client.failsOnly_procedureRequest
    (client : Client)
    (procedure : String)
    (arguments : Except String Json) :
    FailsOnly Error.isEarly (client.procedureRequest procedure arguments) :=
  (Error.failsOnly_ofWriting arguments).bind fun _ => Query.failsOnly_request ..

/-! ## Reading a reply -/

theorem Response.failsOnly_decodeText
    {α : Type}
    (read? : Json.Reader α)
    (s : List Char) :
    FailsOnly Error.isMisread (decodeText read? s) := by
  rw [decodeText]
  split
  · exact .of_ok
  · exact .of_error rfl

theorem Response.failsOnly_total (response : Response) :
    FailsOnly Error.isMisread response.total := by
  rw [total]
  split
  · rw [ContentRange.total]
    split
    · exact .of_ok
    · exact .of_error rfl
  · exact .of_error rfl

theorem failsOnly_readModels (ρ : Type) [Record ρ] (body : String) :
    FailsOnly Error.isMisread (readModels ρ body) := by
  simp only [readModels]
  split
  · exact .of_ok
  · exact Response.failsOnly_decodeText ..
  · exact (Response.failsOnly_decodeText ..).bind fun _ => .of_pure
  · exact .of_error rfl

/-- The status of a response is outside of 200 to 299. -/
def Response.IsRefusal (response : Response) : Prop :=
  ¬(200 ≤ response.status.toNat ∧ response.status.toNat ≤ 299)

theorem Response.isRefusal_iff (response : Response) :
    response.IsRefusal ↔ response.isSuccess = false := by
  simp only [IsRefusal, isSuccess, Bool.and_eq_false_iff, decide_eq_false_iff_not,
    UInt16.le_iff_toNat_le, UInt16.lt_iff_toNat_lt, UInt16.reduceToNat]
  omega

/-- A reading of the outcome of an exchange: a response that was accepted is read
or misread, and a failure is passed on unchanged, unless the status of a rejected
request is an answer. -/
structure ReadsOutcome
    {α : Type}
    (excused? : UInt16 → Option α)
    (read : Except Error Response → Except Error α) : Prop where
  accepted : ∀ response, FailsOnly Error.isMisread (read (.ok response))
  transport : ∀ cause, read (.error (.transport cause)) = .error (.transport cause)
  rejected : ∀ status body,
    read (.error (.rejected status body)) =
      match excused? status with
      | some value => .ok value
      | none => .error (.rejected status body)

/-- The answer that a status stands for, where it is not a failure: a call for a
single row answers that there is none. -/
def Call.excused? {ρ α : Type} : Call ρ α → UInt16 → Option α
  | single, status => if status = 406 then some none else none
  | _, _ => none

theorem Call.readsOutcome {ρ α : Type} [Record ρ] (call : Call ρ α) :
    ReadsOutcome call.excused? call.read := by
  have modeled (response : Response) :
      FailsOnly Error.isMisread (Modeled.ofResponse response : Except Error (Modeled ρ)) :=
    (failsOnly_readModels ρ response.content).bind fun _ => .of_pure
  cases call with
  | get | insert | update | delete | deleteRecord =>
      exact ⟨modeled, fun _ => rfl, fun _ _ => rfl⟩
  | single =>
      refine ⟨fun response => ?_, fun _ => rfl, fun status body => ?_⟩
      · exact (failsOnly_readModels ρ response.content).bind fun _ => .of_pure
      · by_cases notAcceptable : status = 406
        · subst notAcceptable
          rfl
        · have passed : (Error.rejected status body).isNotAcceptable = false := by
            simpa [Error.isNotAcceptable, Error.status?] using notAcceptable
          simp [read, readSingle, passed, excused?, notAcceptable]
  | count strategy => exact ⟨Response.failsOnly_total, fun _ => rfl, fun _ _ => rfl⟩

/-- A procedure call answers the outcome itself. -/
theorem Client.readsOutcome : ReadsOutcome (fun _ => none) (id : Except Error Response → _) :=
  ⟨fun _ => .of_ok, fun _ => rfl, fun _ _ => rfl⟩

namespace ReadsOutcome

variable
  {α : Type}
  {excused? : UInt16 → Option α}
  {read : Except Error Response → Except Error α}

/-- What reading the outcome of an exchange gives, by the reply: the failure of
the transport, a response that is read or misread, or a refusal. -/
theorem cases
    (reads : ReadsOutcome excused? read)
    (reply : Reply) :
    (∃ cause, reply = .failure cause ∧ read reply.accepted = .error (.transport cause)) ∨
      (∃ response,
        reply = .response response ∧ ¬response.IsRefusal ∧
          FailsOnly Error.isMisread (read reply.accepted)) ∨
      ∃ response,
        reply = .response response ∧ response.IsRefusal ∧
          read reply.accepted =
            match excused? response.status with
            | some value => .ok value
            | none => .error (.rejected response.status response.content) := by
  cases reply with
  | failure cause => exact .inl ⟨cause, rfl, reads.transport cause⟩
  | response response =>
      cases success : response.isSuccess with
      | true =>
          refine .inr (.inl ⟨response, rfl, ?_, ?_⟩)
          · rw [Response.isRefusal_iff, success]
            decide
          · rw [Reply.accepted_of_isSuccess success]
            exact reads.accepted response
      | false =>
          have refused : (Reply.response response).accepted =
              .error (.rejected response.status response.content) := by
            rw [Reply.accepted, success]
            rfl
          refine .inr (.inr ⟨response, rfl, (Response.isRefusal_iff response).mpr success, ?_⟩)
          rw [refused, reads.rejected]

/-- A reply gives an answer or a late failure. -/
theorem failsOnly_accepted (reads : ReadsOutcome excused? read) (reply : Reply) :
    FailsOnly Error.isLate (read reply.accepted) := by
  rcases reads.cases reply with ⟨cause, -, read_eq⟩ | ⟨response, -, -, misread⟩ |
    ⟨response, -, -, read_eq⟩
  · rw [read_eq]
    exact .of_error rfl
  · refine ⟨fun error failure => ?_⟩
    have isMisread := misread.kind_of_error error failure
    cases error <;> first | rfl | exact isMisread
  · rw [read_eq]
    cases excused? response.status with
    | none => exact .of_error rfl
    | some value => exact .of_ok

/-- A request is reported as rejected exactly if its response is a refusal, with a
status that is no answer. -/
theorem eq_rejected_iff
    (reads : ReadsOutcome excused? read)
    (reply : Reply)
    (status : UInt16)
    (body : String) :
    read reply.accepted = .error (.rejected status body) ↔
      ∃ response,
        reply = .response response ∧ response.IsRefusal ∧ excused? response.status = none ∧
          response.status = status ∧ response.content = body := by
  constructor
  · intro failure
    rcases reads.cases reply with ⟨cause, -, read_eq⟩ | ⟨response, -, -, misread⟩ |
      ⟨response, isReply, refusal, read_eq⟩
    · rw [failure] at read_eq
      cases read_eq
    · exact nomatch misread.kind_of_error _ failure
    · rw [failure] at read_eq
      cases answer : excused? response.status with
      | none =>
          rw [answer] at read_eq
          cases read_eq
          exact ⟨response, isReply, refusal, answer, rfl, rfl⟩
      | some value =>
          rw [answer] at read_eq
          cases read_eq
  · rintro ⟨response, rfl, refusal, noAnswer, rfl, rfl⟩
    rcases reads.cases (.response response) with ⟨cause, different, -⟩ |
      ⟨_, same, accepted, -⟩ | ⟨_, same, -, read_eq⟩
    · cases different
    · cases same
      exact absurd refusal accepted
    · cases same
      rw [read_eq, noAnswer]

/-- The failure of the transport is reported exactly if the transport failed. -/
theorem eq_transport_iff
    (reads : ReadsOutcome excused? read)
    (reply : Reply)
    (cause : String) :
    read reply.accepted = .error (.transport cause) ↔ reply = .failure cause := by
  constructor
  · intro failure
    rcases reads.cases reply with ⟨cause', isReply, read_eq⟩ | ⟨response, -, -, misread⟩ |
      ⟨response, -, -, read_eq⟩
    · rw [failure] at read_eq
      cases read_eq
      exact isReply
    · exact nomatch misread.kind_of_error _ failure
    · rw [failure] at read_eq
      cases answer : excused? response.status <;> rw [answer] at read_eq <;> cases read_eq
  · rintro rfl
    exact reads.transport cause

/-- A refusal with a status that is an answer is answered. -/
theorem eq_ok_of_excused
    (reads : ReadsOutcome excused? read)
    {response : Response}
    {value : α}
    (refusal : response.IsRefusal)
    (answer : excused? response.status = some value) :
    read (Reply.response response).accepted = .ok value := by
  rcases reads.cases (.response response) with ⟨cause, different, -⟩ |
    ⟨_, same, accepted, -⟩ | ⟨_, same, -, read_eq⟩
  · cases different
  · cases same
    exact absurd refusal accepted
  · cases same
    rw [read_eq, answer]

end ReadsOutcome

/-! ## Calls -/

/-- One call in a conversation, given the request that it attempts. -/
structure RoundTrip
    {α : Type}
    (attempt : Except Error Request)
    (excused? : UInt16 → Option α)
    (before after : Session)
    (answer : Except Error α) : Prop where
  /-- The request is sent once if there is one, and otherwise nothing is. -/
  sent_eq : after.sent = before.sent ++ attempt.toOption.toList
  /-- Only the reply to this request is taken. -/
  waiting_eq : after.waiting = before.waiting.drop attempt.toOption.toList.length
  /-- Nothing was sent exactly if the failure is an early one. -/
  unsent_iff : after.sent = before.sent ↔ ∃ error, answer = .error error ∧ error.isEarly = true
  /-- One request was sent exactly if there is an answer or a late failure. -/
  sent_iff :
    (∃ request, after.sent = before.sent ++ [request]) ↔
      (∃ value, answer = .ok value) ∨ ∃ error, answer = .error error ∧ error.isLate = true
  /-- A request is rejected exactly if it is sent and refused with a status that
  is no answer, and the failure carries the status and the body. -/
  rejected_iff : ∀ status body,
    answer = .error (.rejected status body) ↔
      (∃ request, attempt = .ok request) ∧
        ∃ response,
          before.nextReply = .response response ∧
            response.IsRefusal ∧ excused? response.status = none ∧
              response.status = status ∧ response.content = body
  /-- A refusal with a status that is an answer gives this answer. -/
  excused : ∀ request response value,
    attempt = .ok request → before.nextReply = .response response → response.IsRefusal →
      excused? response.status = some value → answer = .ok value
  /-- A failure of the transport is passed on unchanged, and not invented. -/
  transport_iff : ∀ cause,
    answer = .error (.transport cause) ↔
      (∃ request, attempt = .ok request) ∧ before.nextReply = .failure cause

/-- A call without its request fails early, and nothing is sent. -/
theorem RoundTrip.of_unsent
    {α : Type}
    {excused? : UInt16 → Option α}
    {before after : Session}
    {error : Error}
    (isEarly : error.isEarly = true)
    (sent : after.sent = before.sent)
    (waiting : after.waiting = before.waiting) :
    RoundTrip (.error error) excused? before after (.error error) where
  sent_eq := sent.trans (List.append_nil _).symm
  waiting_eq := waiting
  unsent_iff := ⟨fun _ => ⟨error, rfl, isEarly⟩, fun _ => sent⟩
  sent_iff := by
    have notLate : error.isLate = false := by
      rw [← Bool.not_eq_true]
      intro late
      rw [Error.isEarly_eq_false_of_isLate late] at isEarly
      cases isEarly
    simp [sent, notLate]
  rejected_iff status body := by
    refine ⟨fun same => ?_, fun ⟨⟨_, impossible⟩, _⟩ => nomatch impossible⟩
    cases same
    cases isEarly
  excused _ _ _ impossible := nomatch impossible
  transport_iff cause := by
    refine ⟨fun same => ?_, fun ⟨⟨_, impossible⟩, _⟩ => nomatch impossible⟩
    cases same
    cases isEarly

/-- A call with its request sends it and reads the reply to it. -/
theorem RoundTrip.of_sent
    {α : Type}
    {request : Request}
    {excused? : UInt16 → Option α}
    {read : Except Error Response → Except Error α}
    {before after : Session}
    (reads : ReadsOutcome excused? read)
    (sent : after.sent = before.sent ++ [request])
    (waiting : after.waiting = before.waiting.drop 1) :
    RoundTrip (.ok request) excused? before after (read before.nextReply.accepted) where
  sent_eq := sent
  waiting_eq := waiting
  unsent_iff := by
    have late := reads.failsOnly_accepted before.nextReply
    rw [sent]
    refine ⟨fun same => by simp at same, ?_⟩
    rintro ⟨error, failure, isEarly⟩
    rw [Error.isEarly_eq_false_of_isLate (late.kind_of_error error failure)] at isEarly
    cases isEarly
  sent_iff := by
    have late := reads.failsOnly_accepted before.nextReply
    refine ⟨fun _ => ?_, fun _ => ⟨request, sent⟩⟩
    cases answer : read before.nextReply.accepted with
    | ok value => exact .inl ⟨value, rfl⟩
    | error error => exact .inr ⟨error, rfl, late.kind_of_error error answer⟩
  rejected_iff status body := by
    rw [reads.eq_rejected_iff]
    exact (and_iff_right ⟨request, rfl⟩).symm
  excused _ response value _ isReply refusal answer := by
    rw [isReply]
    exact reads.eq_ok_of_excused refusal answer
  transport_iff cause := by
    rw [reads.eq_transport_iff]
    exact (and_iff_right ⟨request, rfl⟩).symm

/-- A call that fails early without its request, and otherwise reads the reply to
it, is a round trip. -/
theorem RoundTrip.of_reads
    {α : Type}
    {attempt : Except Error Request}
    {excused? : UInt16 → Option α}
    {read : Except Error Response → Except Error α}
    {before after : Session}
    {answer : Except Error α}
    (early : FailsOnly Error.isEarly attempt)
    (reads : ReadsOutcome excused? read)
    (sent : after.sent = before.sent ++ attempt.toOption.toList)
    (waiting : after.waiting = before.waiting.drop attempt.toOption.toList.length)
    (answered : answer = attempt >>= fun _ => read before.nextReply.accepted) :
    RoundTrip attempt excused? before after answer := by
  rw [answered]
  cases attempt with
  | error error =>
      exact .of_unsent (early.kind_of_error error rfl) (sent.trans (List.append_nil _)) waiting
  | ok request => exact .of_sent reads sent waiting

/-- Every call on a table and every call of a procedure sends at most one request
and takes at most the one reply to it; whether it did is told by the kind of its
answer, a refusal is reported with its status and body unless it answers a call
for a single row, and a failure of the transport is reported as it is. -/
theorem roundTrip_run_and_call :
    (∀ {ρ α : Type} [Record ρ] (table : Table ρ) (call : Call ρ α) (session : Session),
      RoundTrip (table.attempt call) call.excused? session (table.run call session).session
        (table.run call session).answer) ∧
    ∀ (client : Client) (procedure : String) (arguments : Except String Json)
        (session : Session),
      RoundTrip (client.procedureRequest procedure arguments) (fun _ => none) session
        (client.call procedure arguments session).2
        (client.call procedure arguments session).1 := by
  constructor
  · intro ρ α _ table call session
    exact .of_reads (Call.failsOnly_request ..) call.readsOutcome (table.sent_run call session)
      (table.waiting_run call session) (table.answer_run call session)
  · intro client procedure arguments session
    exact .of_reads (client.failsOnly_procedureRequest procedure arguments) Client.readsOutcome
      (client.sent_call procedure arguments session)
      (client.waiting_call procedure arguments session)
      (client.answer_call procedure arguments session)

end RestQuery
