import Inquiry.Answer.Amount
import Inquiry.Answer.Suggestion
import Inquiry.Answer.Title

/-!
Results as text: a count sentence, a list of figures for one aggregated document, or a numbered
line for each document with the fields that tell documents apart.
-/
namespace Inquiry.Answer

structure Subject where
  question : String
  collection : String

def nouns : List (String × String × String) :=
  [("customer", "customer", "customers"), ("product", "product", "products"),
   ("order", "order", "orders"), ("user", "user", "users")]

def nounsFor (question : String) : String × String :=
  match nouns.find? fun noun => Text.containsText noun.1 (Text.lowercase question) with
  | some (_, one, many) => (one, many)
  | none => ("document", "documents")

def countSentence (count : Nat) (subject : Subject) : String :=
  let (one, many) := nounsFor subject.question
  let noun := if count = 1 then one else many
  let verb := if count = 1 then "matches" else "match"
  "Count: " ++ String.ofList (grouped (Decimal.ofNat count)) ++ " " ++ noun ++ " in `"
    ++ subject.collection ++ "` " ++ verb ++ " your query."

def countKeys : List String := ["total", "count"]

def isNullId : String × Value → Bool
  | ("_id", .null) => true
  | _ => false

/-- The count of a document that holds nothing else but a null `_id`. -/
def countValue? (document : Document) : Option Nat :=
  match document.filter fun field => !isNullId field with
  | [(key, value)] =>
    if countKeys.contains key then
      match value with
      | .int n => if 0 ≤ n.toInt then some n.toInt.toNat else none
      | .long n => if 0 ≤ n.toInt then some n.toInt.toNat else none
      | _ => none
    else none
  | _ => none

def moneyHints : List String := ["price", "spending", "amount"]

def isMoney (key : String) : Bool :=
  moneyHints.any fun hint => Text.containsText hint (Text.lowercase key)

def figure (key : String) (value : Value) : String :=
  match number? value with
  | some x => String.ofList (if isMoney key then money x else groupedValue value)
  | none => value.displayed

def analysis (document : Document) : String :=
  let figures := document.filter fun field => field.1 ≠ "_id"
  Text.trimmedEnd <| "Analysis Result:\n" ++ String.join (figures.map fun (key, value) =>
    "• " ++ titleText key ++ ": " ++ figure key value ++ "\n")

def displayKeys : List String :=
  ["name", "title", "email", "username", "product", "status", "value", "amount", "price",
   "totalSales", "orderCount", "stock", "inventory", "quantity", "category", "role", "city"]

/-- A field is shown for its own name or for its path from the top of the document. -/
def isShown (path key : String) : Bool :=
  displayKeys.contains key || displayKeys.contains (path ++ key) ||
    Text.containsText "name" (Text.lowercase key)

mutual

def shownParts (path key : String) : Value → List String
  | .document fields => shownFields (path ++ key ++ ".") fields
  | value => if isShown path key then [key ++ ": " ++ value.displayed] else []

def shownFields (path : String) : List (String × Value) → List String
  | [] => []
  | (key, value) :: rest => shownParts path key value ++ shownFields path rest

end

def fallbackLength : Nat := 200

def line (document : Document) : String :=
  let parts := shownFields "" document
  if parts.isEmpty then Text.truncated fallbackLength document.shown else ", ".intercalate parts

def numberedLines (first : Nat) : List Document → String
  | [] => ""
  | document :: rest =>
    Decimal.natText first ++ ". " ++ line document ++ "\n" ++ numberedLines (first + 1) rest

def listing (documents : List Document) : String :=
  let count := documents.length
  Text.trimmedEnd <| "Found " ++ Decimal.natText count ++ " result" ++ (if count = 1 then "" else "s")
    ++ ":\n\n" ++ numberedLines 1 documents

def hasNullId (document : Document) : Bool :=
  match document.get? "_id" with
  | some .null => true
  | _ => false

def render (documents : List Document) (subject : Subject) : String :=
  match documents with
  | [] => noResults subject.question
  | [single] =>
    match countValue? single with
    | some count => countSentence count subject
    | none => if hasNullId single then analysis single else listing documents
  | _ => listing documents

end Inquiry.Answer
