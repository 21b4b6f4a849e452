import RestQuery.Proofs.Http.Merging
import RestQuery.Proofs.Session.Outcomes
import RestQuery.Proofs.Session.Preview

/-!
# The headers of a reply

Headers are written to a response under their names in lower case, and looked up in any
spelling. All spellings of a name are one key, so what is found is what was written last
under any of them; without the lower case an old value could stay in front. A call hands
the headers on as they arrived, with its records or without, and a count reads its total
from them alone.
-/

namespace RestQuery

namespace Headers

theorem foldName_foldName (name : String) : foldName (foldName name) = foldName name := by
  rw [foldName, foldName, String.toList_ofList, List.map_map]
  congr 2
  funext c
  exact toLower_toLower c

end Headers

namespace Response

open Headers

/-! ## Written headers -/

/-- A response to which headers were written, one after the other. -/
def ofWrites
    (status : UInt16)
    (content : String)
    (writes : List (String × String)) :
    Response :=
  writes.foldl (fun response write => response.withHeader write.1 write.2)
    (plain status content)

/-- The value that was written last to a header, in any spelling of its name. -/
def lastValue? (writes : List (String × String)) (name : String) : Option String :=
  (writes.filter fun write => sameName write.1 name).getLast?.map (·.2)

/-- A write with its name in lower case. -/
def lowered (write : String × String) : String × String := (foldName write.1, write.2)

/-- Writing touches nothing but the headers, and keeps of each name the last value. -/
theorem ofWrites_eq
    (status : UInt16)
    (content : String)
    (writes : List (String × String)) :
    ofWrites status content writes =
      ⟨status, SortedMap.ofList (writes.map lowered), content⟩ := by
  induction writes using List.reverseRecOn with
  | nil => rfl
  | append_singleton writes last inductionHypothesis =>
      have written : ofWrites status content (writes ++ [last]) =
          (ofWrites status content writes).withHeader last.1 last.2 :=
        List.foldl_append
      rw [written, inductionHypothesis, List.map_append, List.map_singleton,
        SortedMap.ofList_append_singleton]
      rfl

/-- A header is found in any spelling of its name, with the value that was written last
in any spelling. -/
theorem header?_ofWrites
    (status : UInt16)
    (content : String)
    (writes : List (String × String))
    (name : String) :
    (ofWrites status content writes).header? name = lastValue? writes name := by
  have one_key : ∀ write ∈ (writes.map lowered).filter fun write => sameName write.1 name,
      write.1 = foldName name := by
    intro write member
    obtain ⟨isLowered, same⟩ := List.mem_filter.mp member
    obtain ⟨given, -, rfl⟩ := List.mem_map.mp isLowered
    rw [← sameName_iff.mp same]
    exact (foldName_foldName given.1).symm
  have same_spellings : (writes.map lowered).filter (fun write => sameName write.1 name) =
      (writes.filter fun write => sameName write.1 name).map lowered := by
    rw [List.filter_map]
    refine congrArg (List.map lowered) (List.filter_congr fun write _ => ?_)
    simp only [Function.comp_apply, lowered, sameName, foldName_foldName]
  rw [header?, ofWrites_eq, find?, SortedMap.findKey?_ofList_of_one_key]
  · rw [same_spellings, List.getLast?_map, Option.map_map]
    rfl
  · intro left isLeft right isRight
    rw [one_key left isLeft, one_key right isRight]

/-- The total is read from the content range that was written last. -/
theorem total_ofWrites
    (status : UInt16)
    (content : String)
    (writes : List (String × String)) :
    (ofWrites status content writes).total =
      match lastValue? writes Headers.contentRange with
      | some value => ContentRange.total value
      | none => .error (.invalidContentRange .missingHeader) := by
  have found := header?_ofWrites status content writes contentRange
  cases isLast : lastValue? writes contentRange <;> rw [total, found, isLast]

end Response

/-! ## Answers -/

/-- Reading the records of a response leaves the response as it is. -/
theorem Modeled.response_of_ofResponse
    {ρ : Type}
    [Record ρ]
    {response : Response}
    {modeled : Modeled ρ}
    (read : Modeled.ofResponse response = .ok modeled) :
    modeled.response = response := by
  obtain ⟨models, -, returned⟩ := Sequence.bind_eq_ok_iff.mp read
  cases returned
  rfl

namespace Call

variable {ρ α : Type}

/-- The records of an answer, with the response they came in. -/
def modeled? : Call ρ α → α → Option (Modeled ρ)
  | get, modeled => some modeled
  | single, _ => none
  | insert .., modeled => some modeled
  | update .., modeled => some modeled
  | delete _, modeled => some modeled
  | deleteRecord .., modeled => some modeled
  | count _, _ => none

/-- What a call answers with its records is the response that it has read. -/
theorem response_of_read
    [Record ρ]
    {call : Call ρ α}
    {response : Response}
    {value : α}
    {modeled : Modeled ρ}
    (read : call.read (.ok response) = .ok value)
    (isModeled : call.modeled? value = some modeled) :
    modeled.response = response := by
  cases call with
  | get | insert | update | delete | deleteRecord =>
      cases isModeled
      exact Modeled.response_of_ofResponse read
  | single | count => cases isModeled

end Call

namespace Table

variable {ρ α : Type} [Record ρ]

/-- A count that can be requested answers the total of the response. -/
theorem answer_run_count
    {table : Table ρ}
    {strategy : CountStrategy}
    {session : Session}
    {response : Response}
    (counts : strategy ≠ .none)
    (requested : ∃ url, table.currentUrl = .ok url)
    (accepted : session.nextReply.accepted = .ok response) :
    (table.run (.count strategy) session).answer = response.total := by
  obtain ⟨url, isUrl⟩ := requested
  have keeps : (Call.count strategy : Call ρ UInt64).KeepsQuery := counts
  obtain ⟨headers, body, attempt_eq⟩ := table.exists_attempt_eq_map keeps
  rw [answer_run, attempt_eq, isUrl, accepted]
  rfl

end Table

/-- The headers of a response that tells success arrive as they were written last: a
header is found in any spelling with the value that was written last in any spelling,
or not at all if none was; the records that are read from the response, by themselves or
by a call, carry the same headers; and a count that can be requested answers the total
of the content range that was written last, or fails for want of one, whatever the body
is. -/
theorem header?_and_count_of_writes
    {status : UInt16}
    (success : 200 ≤ status.toNat ∧ status.toNat ≤ 299)
    (content : String)
    (writes : List (String × String))
    (session : Session)
    (arrives : session.nextReply = .response (.ofWrites status content writes)) :
    (∀ request, ∃ response,
      (session.roundTrip request).1 = .ok response ∧
        (∀ name, response.header? name = Response.lastValue? writes name) ∧
        ∀ {ρ : Type} [Record ρ] (modeled : Modeled ρ),
          Modeled.ofResponse response = .ok modeled →
            ∀ name, modeled.header? name = Response.lastValue? writes name) ∧
    (∀ {ρ α : Type} [Record ρ] (table : Table ρ) (call : Call ρ α) value modeled,
      (table.run call session).answer = .ok value →
        call.modeled? value = some modeled →
          ∀ name, modeled.header? name = Response.lastValue? writes name) ∧
    ∀ {ρ : Type} [Record ρ] (table : Table ρ) (strategy : CountStrategy),
      strategy ≠ .none →
        (∃ url, table.currentUrl = .ok url) →
          (table.run (.count strategy) session).answer =
            match Response.lastValue? writes "Content-Range" with
            | some value => ContentRange.total value
            | none => .error (.invalidContentRange .missingHeader) := by
  have isSuccess : (Response.ofWrites status content writes).isSuccess = true := by
    rw [← Bool.not_eq_false, ← Response.isRefusal_iff, Response.IsRefusal, Response.ofWrites_eq,
      not_not]
    exact success
  have accepted : session.nextReply.accepted = .ok (.ofWrites status content writes) := by
    rw [arrives]
    exact Reply.accepted_of_isSuccess isSuccess
  have ofModeled {ρ : Type} {modeled : Modeled ρ}
      (same : modeled.response = .ofWrites status content writes) (name : String) :
      modeled.header? name = Response.lastValue? writes name := by
    rw [Modeled.header?, same, Response.header?_ofWrites]
  refine ⟨fun request => ?_, ?_, ?_⟩
  · refine ⟨_, accepted, Response.header?_ofWrites status content writes, ?_⟩
    intro ρ _ modeled read
    exact ofModeled (Modeled.response_of_ofResponse read)
  · intro ρ α _ table call value modeled answer isModeled
    rw [Table.answer_run, accepted] at answer
    obtain ⟨request, -, read⟩ := Sequence.bind_eq_ok_iff.mp answer
    exact ofModeled (Call.response_of_read read isModeled)
  · intro ρ _ table strategy counts requested
    rw [Table.answer_run_count counts requested accepted, Response.total_ofWrites]
    rfl

/-- A content range that was written twice, in two spellings, counts as it was written
last, also in front of a body that is no document. -/
theorem header?_and_count_of_writes_users :
    let writes := [("CONTENT-Range", "*/0"), ("x-trace", "a"), ("content-range", "0-2/3")]
    let session : Session := { waiting := [.response (.ofWrites 206 "<html>" writes)] }
    let table : Table Catalog.User := ⟨.connect "http://localhost" {}, {}⟩
    (∀ request, ∃ response,
      (session.roundTrip request).1 = .ok response ∧
        response.header? "X-Trace" = some "a" ∧ response.header? "etag" = none) ∧
    (table.run (.count .exact) session).answer = .ok 3 := by
  intro writes session table
  have success : 200 ≤ (206 : UInt16).toNat ∧ (206 : UInt16).toNat ≤ 299 := by decide
  obtain ⟨ofTrip, -, ofCount⟩ :=
    header?_and_count_of_writes success "<html>" writes session rfl
  constructor
  · intro request
    obtain ⟨response, accepted, found, -⟩ := ofTrip request
    exact ⟨response, accepted, found "X-Trace", found "etag"⟩
  · rw [ofCount table .exact (by decide) ⟨_, rfl⟩]
    rfl

end RestQuery
