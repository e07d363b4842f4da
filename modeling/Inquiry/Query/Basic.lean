import Inquiry.Bson.Basic
import Inquiry.Json.Fault

/-! Read queries, and why a text is not one. -/
namespace Inquiry

inductive Operation where
  | find (filter : Document)
  | count (filter : Document)
  | aggregate (pipeline : List Document)

structure Query where
  collection : String
  operation : Operation

inductive Query.DocumentFault where
  | malformed (fault : Json.Fault)
  | misshapen
  | notObject (value : Value)

def Query.DocumentFault.message : DocumentFault → String
  | .malformed fault => fault.message
  | .misshapen => "an object with a reserved key lacks the shape of its kind"
  | .notObject value => "expected an object, got " ++ value.shown

inductive Query.Fault where
  | noCommand
  | unbalanced (bracket : Char)
  | missingPipeline
  | invalidDocument (fault : DocumentFault)
  | invalidStage (index : Nat)
  | unsupportedMethod (name : String)
  | invalidArgument (method : String)

def Query.Fault.message : Fault → String
  | .noCommand => "no db.<collection>.<find|aggregate|countDocuments|count>(...) call found"
  | .unbalanced bracket => "unbalanced `" ++ String.singleton bracket ++ "` in query arguments"
  | .missingPipeline => "aggregate needs a pipeline array"
  | .invalidDocument fault => "invalid query document: " ++ fault.message
  | .invalidStage index => "pipeline stage " ++ Decimal.natText index ++ " is not a document"
  | .unsupportedMethod name =>
    "cursor method `." ++ name ++ "()` is not supported; use aggregate for this query"
  | .invalidArgument method => "invalid argument to `." ++ method ++ "()`"

end Inquiry
