import RestQuery.Proofs.Query.Carrying
import RestQuery.Proofs.Query.Parameters
import RestQuery.Proofs.Session.Exchange

/-!
# Names of procedures in addresses

A procedure is called at its name behind the base address, and the name is written as it
is. So a name reaches the query string, or cuts it off, exactly if it has a question mark
or a number sign; every other name leaves the parameters of a request alone.
-/

namespace RestQuery

namespace Query

/-- Without a query there are the parameters of the settings and the API key. -/
theorem params_empty (settings : Settings) :
    empty.params settings =
      .ok (settings.params ++ (settings.apiKey?.map fun key => ⟨"apikey", key⟩).toList) := by
  refine params_eq_ok_iff.mpr ⟨[], .nil, ?_⟩
  simp [arrangedParams, empty, orderParams, bareProjection?]

end Query

namespace Client

open Query

/-- A procedure whose arguments can be written is requested at its name behind the base
address, with the parameters of the settings and the API key. -/
theorem exists_procedureRequest_eq_ok
    (client : Client)
    (procedure : String)
    (document : Json) :
    ∃ request,
      client.procedureRequest procedure (.ok document) = .ok request ∧
        request.url.toList =
          urlChars client.url.toList ("rpc/".toList ++ procedure.toList)
            (client.settings.params
              ++ (client.settings.apiKey?.map fun key => ⟨"apikey", key⟩).toList) := by
  refine ⟨_, request_eq_ok_iff.mpr ⟨_, params_empty client.settings, rfl⟩, ?_⟩
  rw [String.toList_ofList, String.toList_append]

/-- If the base address has neither a question mark nor a number sign, the address of a
procedure carries just the parameters of the settings and the API key exactly if the name
of the procedure has neither of the two characters, either. Unlike keys and values the
name is written as it is: a question mark in it starts the query string, and a number
sign cuts off what follows. -/
theorem carries_sent_iff
    {client : Client}
    (noQuestion : '?' ∉ client.url.toList)
    (noHash : '#' ∉ client.url.toList)
    (procedure : String)
    (document : Json)
    (session : Session) :
    ∃ request,
      (client.call procedure (.ok document) session).2.sent = session.sent ++ [request] ∧
        (Carries
            (client.settings.params
              ++ (client.settings.apiKey?.map fun key => ⟨"apikey", key⟩).toList)
            request.url.toList ↔
          '?' ∉ procedure.toList ∧ '#' ∉ procedure.toList) := by
  obtain ⟨request, isRequest, address⟩ :=
    client.exists_procedureRequest_eq_ok procedure document
  have plain : '?' ∉ "rpc/".toList ∧ '#' ∉ "rpc/".toList := by decide
  refine ⟨request, (sent_call_eq_append_iff ..).mpr isRequest, ?_⟩
  rw [address, carries_urlChars_iff _ noQuestion noHash, List.mem_append, List.mem_append,
    or_iff_right plain.1, or_iff_right plain.2]

/-- A name with a question mark adds a parameter, and one with a number sign loses the
parameters of the settings; another one carries them. -/
theorem not_carries_sent_question :
    let client : Client := .connect "http://localhost/" (({} : Settings).withParam "x" "1")
    let requests (procedure : String) (request : Request) : Prop :=
      (client.call procedure (.ok .null) {}).2.sent = [request]
    (∃ request, requests "f?y=2" request ∧ ¬Carries [⟨"x", "1"⟩] request.url.toList) ∧
      (∃ request, requests "f#g" request ∧ ¬Carries [⟨"x", "1"⟩] request.url.toList) ∧
      ∃ request, requests "f" request ∧ Carries [⟨"x", "1"⟩] request.url.toList := by
  intro client requests
  have noQuestion : '?' ∉ client.url.toList := by decide
  have noHash : '#' ∉ client.url.toList := by decide
  have ofName (procedure : String) := carries_sent_iff noQuestion noHash procedure .null {}
  refine ⟨?question, ?hash, ?plain⟩
  case question =>
    obtain ⟨request, sent, carries_iff⟩ := ofName "f?y=2"
    exact ⟨request, sent, mt carries_iff.mp (by decide)⟩
  case hash =>
    obtain ⟨request, sent, carries_iff⟩ := ofName "f#g"
    exact ⟨request, sent, mt carries_iff.mp (by decide)⟩
  case plain =>
    obtain ⟨request, sent, carries_iff⟩ := ofName "f"
    exact ⟨request, sent, carries_iff.mpr (by decide)⟩

end Client
end RestQuery
