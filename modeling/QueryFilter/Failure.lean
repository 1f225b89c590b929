/-
The ways a request fails.

Malformed text and refused criteria are batched: such a failure lists one message for each bad segment or
broken rule. The other failures have one cause.
-/

namespace QueryFilter

inductive Failure where
  | malformed (heading : String) (details : List String)
  | rejected (heading : String) (details : List String)
  | unknownEntity (name : String)
  | invalidEntity (detail : String)
  | unboundParameter (name : String)
  | sourceFailed (detail : String)
  deriving DecidableEq, Repr

namespace Failure

/-- The single messages of a batched failure. -/
def details : Failure → List String
  | malformed _ details | rejected _ details => details
  | _ => []

/-- Whether the caller's input is to blame, and not the schema or the source of rows. -/
def isClientError : Failure → Bool
  | malformed _ _ | rejected _ _ | unknownEntity _ => true
  | _ => false

def message : Failure → String
  | malformed heading details | rejected heading details => heading ++ ": " ++ "; ".intercalate details
  | unknownEntity name => "Unknown entity: " ++ name
  | invalidEntity detail => "Invalid entity descriptor: " ++ detail
  | unboundParameter name => "No value bound for parameter ':" ++ name ++ "'"
  | sourceFailed detail => "Connection error: " ++ detail

end Failure

end QueryFilter
