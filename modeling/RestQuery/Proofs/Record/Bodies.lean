import RestQuery.Proofs.Json.Documents
import RestQuery.Proofs.Json.Integers
import RestQuery.Proofs.Session.Parameters
import RestQuery.Record.Catalog

/-!
# Written records are read back

The body of a request holds records as objects. Each field is written as a
document that is read as the field, a field that may be missing as null; so a
record is read back from its object, and the records of a body are read back in
their order, whatever white space stands in front of them. A server that answers
an insertion with the body it got gives back the records that were inserted.
-/

namespace RestQuery

open Sequence

namespace Json

/-! ## Fields -/

theorem legibleItems_iff (items : List Json) :
    LegibleItems items ↔ ∀ item ∈ items, item.Legible := by
  induction items with
  | nil => simp [LegibleItems]
  | cons item items inductionHypothesis => simp [LegibleItems, inductionHypothesis]

/-- Every value is written as a document that can be read, is not null, and is read
as the value. -/
structure Represents {α : Type} (toJson : α → Json) (read? : Reader α) : Prop where
  legible : ∀ value, (toJson value).Legible
  ne_null : ∀ value, toJson value ≠ .null
  reads : ∀ value, read? (toJson value) = some value

namespace Represents

theorem text : Represents Catalog.textJson asText? :=
  ⟨fun _ => trivial, fun _ => Json.noConfusion, fun _ => rfl⟩

theorem int64 : Represents Catalog.int64Json asInt64? :=
  ⟨fun value => isLiteral_intChars value.toInt, fun _ => Json.noConfusion, asInt64?_ofInt⟩

theorem int32 : Represents Catalog.int32Json asInt32? :=
  ⟨fun value => isLiteral_intChars value.toInt, fun _ => Json.noConfusion, asInt32?_ofInt⟩

variable {α : Type} {toJson : α → Json} {read? : Reader α}

theorem legible_optional
    (represents : Represents toJson read?)
    (value : Option α) :
    (Catalog.optionalJson toJson value).Legible := by
  cases value with
  | none => trivial
  | some value => exact represents.legible value

/-- A field that may be missing is read back. -/
theorem optional?_eq
    (represents : Represents toJson read?)
    (value : Option α) :
    optional? read? (some (Catalog.optionalJson toJson value)) = some value := by
  cases value with
  | none => rfl
  | some value =>
      have present := represents.ne_null value
      show optional? read? (some (toJson value)) = some (some value)
      rw [optional?.eq_def]
      split
      · next isNull => exact absurd (Option.some.inj isNull) present
      · next same =>
          cases same
          rw [represents.reads, Option.map_some]
      · next missing => cases missing

end Represents

/-- A field is found in an object that has its name once. -/
theorem fieldValue?_of_mem
    {members : List (String × Json)}
    (apart : (members.map (·.1)).Nodup)
    {member : String × Json}
    (isMember : member ∈ members) :
    fieldValue? members member.1 = some (some member.2) := by
  have found : membersAt member.1 members = [member.2] := by
    induction members with
    | nil => cases isMember
    | cons first rest inductionHypothesis =>
        obtain ⟨absent, restApart⟩ := List.nodup_cons.mp apart
        rw [membersAt, List.filter_cons]
        rcases List.mem_cons.mp isMember with rfl | later
        · have noOther : rest.filter (fun other => other.1 == member.1) = [] := by
            refine List.filter_eq_nil_iff.mpr fun other isOther same => absent ?_
            exact List.mem_map.mpr ⟨other, isOther, eq_of_beq same⟩
          simp [noOther]
        · have different : (first.1 == member.1) = false := by
            refine beq_eq_false_iff_ne.mpr fun same => absent ?_
            exact List.mem_map.mpr ⟨member, later, same.symm⟩
          rw [different]
          exact inductionHypothesis restApart later
  rw [fieldValue?, found]

/-- An object with these names, which are apart, has the fields that it was made
of. -/
theorem fields?_object
    {names : List String}
    {members : List (String × Json)}
    (named : members.map (·.1) = names)
    (apart : names.Nodup) :
    fields? names (.object members) = some (members.map fun member => some member.2) := by
  subst named
  refine mapM_eq_some_of_forall₂ ?_
  rw [List.forall₂_map_left_iff, List.forall₂_map_right_iff]
  exact List.forall₂_same.mpr fun member isMember => fieldValue?_of_mem apart isMember

end Json

/-! ## Records -/

/-- The record is written as an object with these members, which can be read and is
read as the record. -/
structure Record.WrittenAs
    {ρ : Type}
    [Record ρ]
    (record : ρ)
    (members : List (String × Json)) : Prop where
  document_eq : document record = .ok (.object members)
  legible : (Json.object members).Legible
  decode_eq : decode? (.object members) = some record

/-- A record type that is read from the fields with the names of its objects is read
back if the fields of an object give the record. -/
theorem Record.writtenAs_of_fields
    {ρ : Type}
    [Record ρ]
    {record : ρ}
    {names : List String}
    {members : List (String × Json)}
    {build : List (Option Json) → Option ρ}
    (document_eq : document record = .ok (.object members))
    (readsFields : ∀ json, decode? json = (Json.fields? names json).bind build)
    (named : members.map (·.1) = names)
    (apart : names.Nodup)
    (legible : (Json.object members).Legible)
    (builds : build (members.map fun member => some member.2) = some record) :
    WrittenAs record members where
  document_eq := document_eq
  legible := legible
  decode_eq := by
    rw [readsFields, Json.fields?_object named apart]
    exact builds

/-! ## Bodies -/

namespace Response

/-- The text of a document is read as the value that the document stands for. -/
theorem decodeText_chars
    {α : Type}
    {read? : Json.Reader α}
    {json : Json}
    {value : α}
    (legible : json.Legible)
    (reads : read? json = some value) :
    decodeText read? json.chars = .ok value := by
  rw [decodeText, Json.read?_chars legible, Option.bind_some, reads]

end Response

/-- White space in front of a text is trimmed. -/
theorem Text.trimStart_append
    {blanks : List Char}
    (allBlank : ∀ c ∈ blanks, isBlank c = true)
    (s : List Char) :
    trimStart (blanks ++ s) = trimStart s := by
  rw [trimStart, List.dropWhile_append_of_pos allBlank, trimStart]

/-- White space in front of a body makes no difference. -/
theorem readModels_append
    {ρ : Type}
    [Record ρ]
    {blanks : List Char}
    (allBlank : ∀ c ∈ blanks, Text.isBlank c = true)
    (body : String) :
    readModels ρ (String.ofList (blanks ++ body.toList)) = readModels ρ body := by
  rw [readModels, readModels, String.toList_ofList, Text.trimStart_append allBlank]

namespace Payload

variable {ρ : Type}

/-- The records of a payload. -/
def records : Payload ρ → List ρ
  | one record => [record]
  | many records => records

variable [Record ρ]

/-- A single record is read back from its object. -/
theorem text_and_readModels_one
    {record : ρ}
    {members : List (String × Json)}
    (written : Record.WrittenAs record members) :
    (one record).text = .ok (Json.object members).compact ∧
      readModels ρ (Json.object members).compact = .ok [record] := by
  constructor
  · rw [text, encode, Record.encode, written.document_eq]
    rfl
  · have decoded := Response.decodeText_chars written.legible written.decode_eq
    rw [readModels, Json.compact, String.toList_ofList]
    show (do return [← Response.decodeText Record.decode? (Json.object members).chars]) = _
    rw [decoded]
    rfl

/-- Records are read back from the array of their documents. -/
theorem text_and_readModels_many
    {records : List ρ}
    {documents : List Json}
    (each : List.Forall₂
      (fun record document =>
        Record.document record = .ok document ∧ document.Legible ∧
          Record.decode? document = some record)
      records documents) :
    (many records).text = .ok (Json.array documents).compact ∧
      readModels ρ (Json.array documents).compact = .ok records := by
  constructor
  · have encoded : records.mapM Record.encode = .ok documents := by
      refine mapM_eq_ok_iff.mpr (each.imp fun record document written => ?_)
      rw [Record.encode, written.1]
      rfl
    rw [text, encode, encoded]
    rfl
  · have legible : (Json.array documents).Legible := by
      refine (Json.legibleItems_iff documents).mpr fun document member => ?_
      obtain ⟨record, -, written⟩ := exists_of_mem_right each member
      exact written.2.1
    have reads : Json.asList? Record.decode? (.array documents) = some records :=
      mapM_eq_some_of_forall₂ (each.imp fun _ _ written => written.2.2)
    rw [readModels, Json.compact, String.toList_ofList]
    exact Response.decodeText_chars legible reads

/-- If every record of a payload can be written and read back, the payload is read
back from its text. -/
theorem exists_text_and_readModels
    {payload : Payload ρ}
    (each : ∀ record ∈ payload.records, ∃ members, Record.WrittenAs record members) :
    ∃ text, payload.text = .ok text ∧ readModels ρ text = .ok payload.records := by
  cases payload with
  | one record =>
      obtain ⟨members, written⟩ := each record List.mem_cons_self
      exact ⟨_, text_and_readModels_one written⟩
  | many records =>
      have eachDocument : ∀ record ∈ records, ∃ document,
          Record.document record = .ok document ∧ document.Legible ∧
            Record.decode? document = some record := by
        intro record member
        obtain ⟨members, written⟩ := each record member
        exact ⟨.object members, written.document_eq, written.legible, written.decode_eq⟩
      obtain ⟨documents, related⟩ := exists_forall₂ eachDocument
      exact ⟨_, text_and_readModels_many related⟩

end Payload

/-- An insertion carries the text of its payload; answered with a response in which
records are read, it answers these records. -/
theorem Table.run_insert_of_readModels
    {ρ : Type}
    [Record ρ]
    {table : Table ρ}
    {payload : Payload ρ}
    {preferences : Preferences}
    {session : Session}
    {text : String}
    {request : Request}
    {response : Response}
    {models : List ρ}
    (written : payload.text = .ok text)
    (isRequest : table.attempt (.insert payload preferences) = .ok request)
    (isReply : session.nextReply = .response response)
    (success : response.isSuccess = true)
    (read : readModels ρ response.content = .ok models) :
    request.body = some text ∧
      (table.run (.insert payload preferences) session).answer = .ok ⟨response, models⟩ := by
  constructor
  · have isBody : (Call.insert payload preferences).body = .ok (some text) := by
      rw [Call.body, written]
      rfl
    exact Except.ok.inj ((Call.body_eq_of_request isRequest).symm.trans isBody)
  · rw [answer_run, isRequest, isReply, Reply.accepted_of_isSuccess success]
    show Modeled.ofResponse response = _
    rw [Modeled.ofResponse, read]
    rfl

namespace Catalog

open Json

/-! ## The record types -/

theorem User.exists_writtenAs (user : User) : ∃ members, Record.WrittenAs user members := by
  refine ⟨_, Record.writtenAs_of_fields rfl (fun _ => rfl) rfl (by decide) ?_ ?_⟩
  · exact ⟨trivial, Represents.text.legible_optional _, Represents.text.legible_optional _,
      Represents.text.legible_optional _, trivial⟩
  · simp only [List.map_cons, List.map_nil, Option.bind_eq_bind, Option.bind_some, required?,
      Represents.text.optional?_eq, asText?]
    rfl

theorem Message.exists_writtenAs (message : Message) :
    ∃ members, Record.WrittenAs message members := by
  refine ⟨_, Record.writtenAs_of_fields rfl (fun _ => rfl) rfl (by decide) ?_ ?_⟩
  · exact ⟨Represents.int64.legible_optional _, trivial, trivial, Represents.int64.legible _,
      trivial⟩
  · simp only [List.map_cons, List.map_nil, Option.bind_eq_bind, Option.bind_some, required?,
      Represents.int64.optional?_eq, Represents.int64.reads, asText?]
    rfl

theorem KitchenSink.exists_writtenAs (row : KitchenSink) :
    ∃ members, Record.WrittenAs row members := by
  refine ⟨_, Record.writtenAs_of_fields rfl (fun _ => rfl) rfl (by decide) ?_ ?_⟩
  · exact ⟨Represents.int32.legible _, Represents.text.legible_optional _,
      Represents.int32.legible_optional _, trivial⟩
  · simp only [List.map_cons, List.map_nil, Option.bind_eq_bind, Option.bind_some, required?,
      Represents.text.optional?_eq, Represents.int32.optional?_eq, Represents.int32.reads]
    rfl

/-- Every user, every message and every row of the kitchen sink is written as an
object that is read back. -/
theorem Kind.exists_writtenAs
    {kind : Kind}
    (listed : kind ∈ [Kind.users, .messages, .kitchenSink])
    (record : kind.Row) :
    ∃ members, Record.WrittenAs record members := by
  cases kind with
  | users => exact User.exists_writtenAs record
  | messages => exact Message.exists_writtenAs record
  | kitchenSink => exact KitchenSink.exists_writtenAs record
  | item | readings | flags | notes | lists | fragile => exact absurd listed (by decide)

/-- One or several users, messages or rows of the kitchen sink are written as a text
from which, behind any white space, exactly they are read, in their order. An
insertion carries this text, and answers exactly what it inserted where the server
gives the text back. -/
theorem exists_readModels_text_of_listed
    {kind : Kind}
    (listed : kind ∈ [Kind.users, .messages, .kitchenSink])
    (payload : Payload kind.Row)
    {blanks : List Char}
    (allBlank : ∀ c ∈ blanks, Text.isBlank c = true) :
    ∃ text,
      payload.text = .ok text ∧
        readModels kind.Row (String.ofList (blanks ++ text.toList)) = .ok payload.records ∧
        ∀ (table : Table kind.Row) (preferences : Preferences) (session : Session)
            (request : Request) (response : Response),
          table.attempt (.insert payload preferences) = .ok request →
          session.nextReply = .response response →
          response.isSuccess = true →
          response.content = String.ofList (blanks ++ text.toList) →
            request.body = some text ∧
              (table.run (.insert payload preferences) session).answer =
                .ok ⟨response, payload.records⟩ := by
  have each : ∀ record ∈ payload.records, ∃ members, Record.WrittenAs record members :=
    fun record _ => Kind.exists_writtenAs listed record
  obtain ⟨text, written, read⟩ := Payload.exists_text_and_readModels each
  rw [← readModels_append allBlank] at read
  refine ⟨text, written, read, fun table preferences session request response isRequest isReply
    success echo => ?_⟩
  rw [← echo] at read
  exact Table.run_insert_of_readModels written isRequest isReply success read

/-- Two users, one with a name of characters that are escaped, behind white space that
no document may start with; the server gives back what it got. -/
theorem exists_readModels_text_of_listed_users :
    let users : List User := [⟨"a\"\u0001\\\u00E9", none, some "]", none⟩, ⟨"", none, none, none⟩]
    let payload : Payload Kind.users.Row := .many users
    let blanks : List Char := ['\u00A0', '\u2003', '\n']
    ∃ text,
      payload.text = .ok text ∧
        readModels User (String.ofList (blanks ++ text.toList)) = .ok users ∧
        (Table.run ((Client.connect "http://localhost" {}).table Kind.users.Row)
            (.insert payload {})
            { waiting :=
                [.response (.plain 201 (String.ofList (blanks ++ text.toList)))] }).answer =
          .ok ⟨.plain 201 (String.ofList (blanks ++ text.toList)), users⟩ := by
  intro users payload blanks
  have listed : Kind.users ∈ [Kind.users, .messages, .kitchenSink] := List.mem_cons_self
  have allBlank : ∀ c ∈ blanks, Text.isBlank c = true := List.all_eq_true.mp (by decide)
  obtain ⟨text, written, read, inserted⟩ :=
    exists_readModels_text_of_listed listed payload allBlank
  exact ⟨text, written, read, (inserted _ {} _ _ _ rfl rfl rfl rfl).2⟩

end Catalog
end RestQuery
