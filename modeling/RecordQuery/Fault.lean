namespace RecordQuery

/-- A failure with its cause. -/
inductive Fault where
  | unsupportedClause (clause : String)
  | invalidSubselect (reason : String)
  | invalidOperator (text : String)
  | invalidDate (text : String)
  | unknownRelation (object relation : String)
  | missingField (object field : String)
  | typeMismatch (reason : String)
  | schemaUnavailable (reason : String)
  | transport (reason : String)
  | malformedResponse (reason : String)
  | pageLimit (pages : Nat)
  | configuration (reason : String)
  | serialization
  deriving DecidableEq

namespace Fault

def message : Fault → String
  | unsupportedClause clause => "Unsupported clause kind: " ++ clause
  | invalidSubselect reason => "Invalid subquery argument: " ++ reason
  | invalidOperator text => "Invalid operator: " ++ text
  | invalidDate text => "Invalid date: " ++ text
  | unknownRelation object relation =>
    "Call to undefined relationship [" ++ relation ++ "] on object [" ++ object ++ "]"
  | missingField object field => "The field " ++ field ++ " does not exist on " ++ object
  | typeMismatch reason => "Type mismatch: " ++ reason
  | schemaUnavailable reason => "Schema unavailable: " ++ reason
  | transport reason => "Transport failure: " ++ reason
  | malformedResponse reason => "Malformed response: " ++ reason
  | pageLimit pages => "Pagination limit exceeded after " ++ toString pages ++ " pages"
  | configuration reason => "Configuration error: " ++ reason
  | serialization => "Serialization error"

/-- Only a failed transport may succeed when it is tried again. -/
def retryable : Fault → Bool
  | transport _ => true
  | _ => false

end Fault

end RecordQuery
