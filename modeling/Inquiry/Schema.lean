import Inquiry.Bson.Basic
import Inquiry.Text.Cut

/-! Collections as one sample document shows them. -/
namespace Inquiry

structure Field where
  name : String
  kind : String
deriving DecidableEq

structure Collection where
  name : String
  description : String
  /-- In the order of the sample document. -/
  fields : List Field
  count : Nat
  indexes : List String
deriving DecidableEq

structure FieldSample where
  field : Field
  sample : String

namespace Schema

def description (fields documents : Nat) : String :=
  "Collection with " ++ Decimal.natText fields ++ " fields and " ++ Decimal.natText documents
    ++ " documents"

def collection (name : String) (fields : List Field) (count : Nat) (indexes : List String) :
    Collection :=
  ⟨name, description fields.length count, fields, count, indexes⟩

def fieldsOf (document : Document) : List Field :=
  document.map fun (name, value) => ⟨name, value.typeName⟩

def samplesOf (length : Nat) (document : Document) : List FieldSample :=
  document.map fun (name, value) =>
    ⟨⟨name, value.typeName⟩, Text.truncated length value.displayed⟩

def isSystem (name : String) : Bool := Text.startsWith "system.".toList name.toList

end Schema
end Inquiry
