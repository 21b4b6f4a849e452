import RestQuery.Filter.Criterion

/-!
# Errors

Every failure of the library is a value that names its cause. The wording is
one function.
-/

namespace RestQuery

/-- Why a text is not the written form of a filter. -/
inductive Malformation
  | emptyColumn
  | unparenthesized
  | incompleteChild
  | missingOperator
  | incompleteSearch
  | missingPoint
  | noContainer
  | noList
  | noInterval
  | noObject
  | nestedValue (value : Json)

namespace Malformation

/-- The reason in words. -/
def message : Malformation → String
  | emptyColumn => "empty column"
  | unparenthesized => "group body must be parenthesized"
  | incompleteChild => "expected `column.operator.value`"
  | missingOperator => "missing operator"
  | incompleteSearch => "expected `token(language).query`"
  | missingPoint => "expected `.` after operator"
  | noContainer => "expected `\x7ba,b\x7d`, JSON or a range"
  | noList => "expected `(\"a\",\"b\")`"
  | noInterval => "expected a range literal like `[2,3]`"
  | noObject => "invalid JSON object"
  | nestedValue value => "non-scalar map value " ++ value.compact

end Malformation

/-- What was wrong with a filter or a call. -/
inductive UsageFault
  | unknownOperator (token : String)
  | nullOperand (operator : Operator) (column : String)
  | logicalOperator (operator : Operator) (column : String)
  | unfitOperand (operator : Operator) (column : String) (shape : Shape)
  | emptyGroup (connective : Connective)
  | malformedFilter (key value : String) (reason : Malformation)
  | uncountable

namespace UsageFault

/-- The fault in words. -/
def message : UsageFault → String
  | unknownOperator token => "unknown operator `" ++ token ++ "`"
  | nullOperand operator column =>
      "null criteria must use the `Equals`, `Is`, `Not` or `NotEqual` operators, got `"
        ++ operator.token ++ "` on `" ++ column ++ "`"
  | logicalOperator operator column =>
      "`" ++ operator.token ++ "` is a logical operator; build it with "
        ++ "Filter::and, Filter::or or Filter::not instead of a leaf on `"
        ++ column ++ "`"
  | unfitOperand operator column shape =>
      "operator `" ++ operator.token ++ "` on `" ++ column ++ "` expects "
        ++ operator.operandKind.description ++ ", got " ++ shape.name
  | emptyGroup connective =>
      "`" ++ connective.token ++ "` group needs at least one child filter"
  | malformedFilter key value reason =>
      "cannot parse filter `" ++ key ++ "=" ++ value ++ "`: " ++ reason.message
  | uncountable => "count() needs the Exact, Planned or Estimated strategy"

end UsageFault

/-- Why a body was not decoded. -/
inductive DecodeFault
  | unexpectedStart (found : Char)
  | unfitDocument

namespace DecodeFault

/-- The fault in words. -/
def message : DecodeFault → String
  | unexpectedStart found =>
      "expected a JSON array, object or empty body, found `" ++ found.toString ++ "`"
  | unfitDocument => "the body is no JSON document of the expected shape"

end DecodeFault

/-- Why no total was read from a response. -/
inductive RangeFault
  | missingHeader
  | invalid (value : String)

namespace RangeFault

/-- The fault in words. -/
def message : RangeFault → String
  | missingHeader => "missing Content-Range header"
  | invalid value => value

end RangeFault

/-- Why a configuration was refused. -/
inductive ConfigFault
  | missingUrl
  | unsupportedUrl (url : String)
  | invalidDocument

namespace ConfigFault

/-- The fault in words. -/
def message : ConfigFault → String
  | missingUrl => "PGREST_URL is not set"
  | unsupportedUrl url =>
      "base url must start with http:// or https://, got `" ++ url ++ "`"
  | invalidDocument => "the document describes no configuration"

end ConfigFault

/-- A failure of the library. -/
inductive Error
  | usage (fault : UsageFault)
  | missingPrimaryKey (table : String)
  | transport (cause : String)
  | rejected (status : UInt16) (body : String)
  | decode (fault : DecodeFault)
  | serialize (cause : String)
  | invalidContentRange (fault : RangeFault)
  | config (fault : ConfigFault)

namespace Error

/-- A document that is to be sent; what refuses to be written fails. -/
def ofWriting (document : Except String Json) : Except Error Json :=
  document.mapError serialize

/-- The failure in words. -/
def message : Error → String
  | usage fault => "Usage error: " ++ fault.message
  | missingPrimaryKey table =>
      "Record for table `" ++ table ++ "` has no primary key value"
  | transport cause => "Transport error: " ++ cause
  | rejected status body =>
      "Request rejected with status " ++ toString status.toNat ++ ": " ++ body
  | decode fault => "Decode error: " ++ fault.message
  | serialize cause => "Serialization error: " ++ cause
  | invalidContentRange fault => "Invalid Content-Range: " ++ fault.message
  | config fault => "Configuration error: " ++ fault.message

/-- The status of a rejected request. -/
def status? : Error → Option UInt16
  | rejected status _ => some status
  | _ => none

/-- The request was rejected as malformed. -/
def isBadRequest (error : Error) : Bool := error.status? == some 400

/-- The request was rejected for want of permission. -/
def isForbidden (error : Error) : Bool :=
  error.status? == some 401 || error.status? == some 403

/-- What the request asked for does not exist. -/
def isNotFound (error : Error) : Bool := error.status? == some 404

/-- The answer has no acceptable representation. -/
def isNotAcceptable (error : Error) : Bool := error.status? == some 406

/-- The request conflicts with what is stored. -/
def isConflict (error : Error) : Bool := error.status? == some 409

end Error
end RestQuery
