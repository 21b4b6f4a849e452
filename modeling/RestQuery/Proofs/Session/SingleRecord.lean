import RestQuery.Proofs.Session.Parameters

/-!
# Calls about a single record

An update and the deletion of a record are confined to the key of the record. A
key that is one value becomes the last filter of an update, and the only filter
of a deletion, which therefore does not depend on what the table has gathered.
Without such a key nothing is sent. Nothing that the table has gathered is left
behind either call.
-/

namespace RestQuery

open Sequence

/-! ## The filter of a key -/

namespace Filter

/-- The parameter that a column equals a value. -/
def equalityParam (column : String) (value : Scalar) : Param :=
  ⟨column, String.ofList ("eq.".toList ++ value.chars)⟩

/-- The equality with a value is written as this parameter. -/
theorem toParam_comparison_equal (column : String) (value : Scalar) :
    (comparison column .equal value).toParam = .ok (equalityParam column value) := by
  have bare : operandChars false .equal (.scalar value) = '.' :: value.chars := by
    cases value with
    | text value => rfl
    | int value => rfl
    | float value => rfl
    | bool value => cases value <;> rfl
  have written : (comparison column .equal value).valueChars false =
      .ok ("eq".toList ++ '.' :: value.chars) := by
    rw [← bare]
    exact conditionChars_of_fits rfl column
  rw [toParam, written]
  show Except.ok (Param.mk (String.ofList column.toList) _) = _
  rw [String.ofList_toList]
  rfl

end Filter

namespace Record

variable {ρ : Type} [Record ρ]

/-- A key is compared with if it is a single value; a missing key and every other
one is refused. -/
theorem keyFilter_eq (record : ρ) :
    keyFilter record =
      match key record with
      | .null => .error (.missingPrimaryKey (table ρ))
      | .scalar value => .ok (.comparison (primaryKey ρ) .equal value)
      | criterion => .error (.usage (.unfitOperand .equal (primaryKey ρ) criterion.shape)) := by
  unfold keyFilter
  cases key record <;> rfl

end Record

/-! ## The requests -/

namespace Query

/-- The request for a query whose filters can be written. -/
theorem request_of_forall₂
    {base path : String}
    {settings : Settings}
    {method : Method}
    {query : Query}
    {body : Option String}
    {overrides : Headers}
    {filters : List Param}
    (each : List.Forall₂ (fun filter param => filter.toParam = .ok param)
      query.filters filters) :
    query.request base path settings method body overrides =
      .ok
        { method
          url := String.ofList
            (urlChars base.toList path.toList (arrangedParams settings filters query))
          headers := query.headers settings method body.isSome overrides
          body } := by
  apply request_eq_ok_iff.mpr
  exact ⟨_, params_eq_ok_iff.mpr ⟨filters, each, rfl⟩, rfl⟩

end Query

namespace Table

variable {ρ : Type} [Record ρ]

/-- The parameters of a call about a record, given those of its filters. The table
contributes all parameters but these; the filters that it has gathered are not
looked at. -/
def recordParams (table : Table ρ) (filters : List Param) : List Param :=
  Query.arrangedParams table.client.settings filters table.query

/-- The request of a call about a record, given the parameters of its filters. -/
def recordRequest
    (table : Table ρ)
    (method : Method)
    (filters : List Param)
    (body : Option String)
    (preferences : Preferences) :
    Request where
  method
  url := String.ofList
    (Query.urlChars table.client.url.toList (Record.table ρ).toList
      (table.recordParams filters))
  headers :=
    table.query.headers table.client.settings method body.isSome preferences.toHeaders
  body

/-- The table with other filters. -/
def withFilters (table : Table ρ) (filters : List Filter) : Table ρ :=
  { table with query := { table.query with filters } }

/-- An update adds the filter of the key behind all others. -/
theorem attempt_update
    {table : Table ρ}
    {record : ρ}
    {value : Scalar}
    (isKey : Record.key record = .scalar value)
    {document : Json}
    (isDocument : Record.document record = .ok document)
    {filters : List Param}
    (each : List.Forall₂ (fun filter param => filter.toParam = .ok param)
      table.query.filters filters)
    (preferences : Preferences) :
    table.attempt (.update record preferences) =
      .ok (table.recordRequest .patch
        (filters ++ [Filter.equalityParam (Record.primaryKey ρ) value])
        (some document.compact) preferences) := by
  have keyFilter := Record.keyFilter_eq record
  rw [isKey] at keyFilter
  have prepared : (Call.update record preferences).IsPrepared table.query
      (table.query.keep (.comparison (Record.primaryKey ρ) .equal value))
      (some document.compact) := by
    constructor
    · rw [Call.adjust, keyFilter]
      rfl
    · rw [Call.body, Payload.text, Payload.encode, Record.encode, isDocument]
      rfl
  have all : List.Forall₂ (fun filter param => filter.toParam = .ok param)
      (table.query.filters ++ [.comparison (Record.primaryKey ρ) .equal value])
      (filters ++ [Filter.equalityParam (Record.primaryKey ρ) value]) :=
    List.rel_append each (.cons (Filter.toParam_comparison_equal _ _) .nil)
  rw [attempt, prepared.request_eq]
  exact Query.request_of_forall₂ all

/-- The deletion of a record puts the filter of the key in the place of all
others. -/
theorem attempt_deleteRecord
    {record : ρ}
    {value : Scalar}
    (isKey : Record.key record = .scalar value)
    (table : Table ρ)
    (filters : List Filter)
    (preferences : Preferences) :
    (table.withFilters filters).attempt (.deleteRecord record preferences) =
      .ok (table.recordRequest .delete
        [Filter.equalityParam (Record.primaryKey ρ) value] none preferences) := by
  have keyFilter := Record.keyFilter_eq record
  rw [isKey] at keyFilter
  have prepared : (Call.deleteRecord record preferences).IsPrepared
      (table.withFilters filters).query
      { table.query with filters := [.comparison (Record.primaryKey ρ) .equal value] }
      none := by
    constructor
    · rw [Call.adjust, keyFilter]
      rfl
    · rfl
  rw [attempt, prepared.request_eq]
  exact Query.request_of_forall₂ (.cons (Filter.toParam_comparison_equal _ _) .nil)

/-- Both calls fail as the filter of the key does. -/
theorem attempt_of_keyFilter_eq_error
    {record : ρ}
    {error : Error}
    (refused : Record.keyFilter record = .error error)
    (table : Table ρ)
    (preferences : Preferences) :
    table.attempt (.update record preferences) = .error error ∧
      table.attempt (.deleteRecord record preferences) = .error error := by
  constructor
  · rw [attempt, Call.request, Call.adjust, refused]
    rfl
  · rw [attempt, Call.request, Call.adjust, refused]
    rfl

/-! ## The calls -/

/-- Both calls about a record fail with an error, and send nothing. -/
structure RefusesRecord
    (table : Table ρ)
    (record : ρ)
    (preferences : Preferences)
    (session : Session)
    (error : Error) : Prop where
  update_answer : (table.run (.update record preferences) session).answer = .error error
  update_sent :
    (table.run (.update record preferences) session).session.sent = session.sent
  delete_answer :
    (table.run (.deleteRecord record preferences) session).answer = .error error
  delete_sent :
    (table.run (.deleteRecord record preferences) session).session.sent = session.sent

theorem refusesRecord_of_keyFilter_eq_error
    {record : ρ}
    {error : Error}
    (refused : Record.keyFilter record = .error error)
    (table : Table ρ)
    (preferences : Preferences)
    (session : Session) :
    RefusesRecord table record preferences session error := by
  obtain ⟨update, delete⟩ := attempt_of_keyFilter_eq_error refused table preferences
  constructor
  · rw [run_of_attempt_eq_error update]
  · rw [run_of_attempt_eq_error update]
    rfl
  · rw [run_of_attempt_eq_error delete]
  · rw [run_of_attempt_eq_error delete]
    rfl

/-- If the key of a record is a single value, an update of a record that can be
written, at a table with filters that can be written, sends these filters with
the equality of the key behind them, and the deletion of the record sends the
equality of the key alone: one request, whatever filters the table has gathered.
The address of such a request is read as these filters, in their place among all
other parameters. If the key is missing, or is no single value, both calls fail and
send nothing. In every case the table starts over. -/
theorem run_confined_to_key
    (table : Table ρ)
    (record : ρ)
    (preferences : Preferences)
    (session : Session) :
    (∀ value, Record.key record = .scalar value →
      (∀ document filters,
        Record.document record = .ok document →
        List.Forall₂ (fun filter param => filter.toParam = .ok param)
          table.query.filters filters →
        (table.run (.update record preferences) session).session.sent =
          session.sent ++
            [table.recordRequest .patch
              (filters ++ [Filter.equalityParam (Record.primaryKey ρ) value])
              (some document.compact) preferences]) ∧
      ∀ filters : List Filter,
        ((table.withFilters filters).run (.deleteRecord record preferences)
            session).session.sent =
          session.sent ++
            [table.recordRequest .delete
              [Filter.equalityParam (Record.primaryKey ρ) value] none preferences]) ∧
    (∀ method filters body,
      Query.IsAddress table.client.url (Record.table ρ) (table.recordParams filters)
        (table.recordRequest method filters body preferences).url) ∧
    (Record.key record = .null →
      RefusesRecord table record preferences session
        (.missingPrimaryKey (Record.table ρ))) ∧
    (Record.key record ≠ .null → (∀ value, Record.key record ≠ .scalar value) →
      RefusesRecord table record preferences session
        (.usage (.unfitOperand .equal (Record.primaryKey ρ) (Record.key record).shape))) ∧
    (table.run (.update record preferences) session).table =
      { table with query := .empty } ∧
    (table.run (.deleteRecord record preferences) session).table =
      { table with query := .empty } := by
  have keyFilter := Record.keyFilter_eq record
  refine ⟨fun value isKey => ⟨fun document filters isDocument each => ?_, fun filters => ?_⟩,
    fun _ _ _ => Query.isAddress_urlChars .., fun noKey => ?_, fun someKey noValue => ?_,
    table_run .., table_run ..⟩
  · apply (sent_run_eq_append_iff ..).mpr
    exact attempt_update isKey isDocument each preferences
  · apply (sent_run_eq_append_iff ..).mpr
    exact attempt_deleteRecord isKey table filters preferences
  · rw [noKey] at keyFilter
    exact refusesRecord_of_keyFilter_eq_error keyFilter table preferences session
  · refine refusesRecord_of_keyFilter_eq_error ?_ table preferences session
    cases isKey : Record.key record with
    | null => exact absurd isKey someKey
    | scalar value => exact absurd isKey (noValue value)
    | list | map | interval | fullText =>
        rw [isKey] at keyFilter
        exact keyFilter

/-- The update of a user keeps the filter of its table. The deletion of the user is sent
although its table has gathered an empty group, which no request can hold, and leaves
nothing behind; a message without a number and a row with a list for its key are not
deleted. -/
theorem run_confined_to_key_catalog :
    let client := Client.connect "http://localhost" (({} : Settings).withParam "tenant" "7")
    (∃ request,
      (Table.run ⟨client, { filters := [.isNull "status"], limit := some ⟨1, none⟩ }⟩
          (.update (⟨"ann", none, none, none⟩ : Catalog.User) {}) {}).session.sent = [request] ∧
        request.method = .patch ∧
        Query.IsAddress "http://localhost" "users"
          [⟨"tenant", "7"⟩, ⟨"status", "is.null"⟩, ⟨"username", "eq.ann"⟩, ⟨"limit", "1"⟩]
          request.url) ∧
    (∃ request,
      (Table.run ⟨client, { filters := [.and []], limit := some ⟨1, none⟩ }⟩
          (.deleteRecord (⟨"ann", none, none, none⟩ : Catalog.User) {}) {}).session.sent =
          [request] ∧
        request.method = .delete ∧
        Query.IsAddress "http://localhost" "users"
          [⟨"tenant", "7"⟩, ⟨"username", "eq.ann"⟩, ⟨"limit", "1"⟩] request.url) ∧
    (Table.run ⟨client, { filters := [.and []], limit := some ⟨1, none⟩ }⟩
        (.deleteRecord (⟨"ann", none, none, none⟩ : Catalog.User) {}) {}).table = ⟨client, {}⟩ ∧
    (Table.run ⟨client, {}⟩
        (.deleteRecord (⟨none, "ann", "hello", 1⟩ : Catalog.Message) {}) {}).session.sent = [] ∧
    (Table.run ⟨client, {}⟩
        (.deleteRecord (⟨["a"]⟩ : Catalog.Listing) {}) {}).session.sent = [] := by
  intro client
  refine ⟨?_, ?_, ?_, ?_, ?_⟩
  · obtain ⟨sends, address, -⟩ := run_confined_to_key
      ⟨client, { filters := [.isNull "status"], limit := some ⟨1, none⟩ }⟩
      (⟨"ann", none, none, none⟩ : Catalog.User) {} {}
    exact ⟨_, (sends (.text "ann") rfl).1 _ _ rfl (.cons rfl .nil), rfl,
      address .patch [⟨"status", "is.null"⟩, ⟨"username", "eq.ann"⟩] _⟩
  · obtain ⟨sends, address, -⟩ := run_confined_to_key
      ⟨client, { filters := [.and []], limit := some ⟨1, none⟩ }⟩
      (⟨"ann", none, none, none⟩ : Catalog.User) {} {}
    exact ⟨_, (sends (.text "ann") rfl).2 [.and []], rfl,
      address .delete [⟨"username", "eq.ann"⟩] _⟩
  · exact (run_confined_to_key _ _ _ _).2.2.2.2.2
  · exact ((run_confined_to_key _ _ _ _).2.2.1 rfl).delete_sent
  · exact ((run_confined_to_key _ _ _ _).2.2.2.1 (by simp [Record.key])
      (by simp [Record.key])).delete_sent

end Table
end RestQuery
