import Inquiry.Index.Basic
import Inquiry.Text.Case
import Inquiry.Text.Cut

/-! Queries that are known beforehand: orders joined with the customers who placed them. -/
namespace Inquiry.Canned

def orders : String := "orders"

def customers : String := "customers"

def customerWords : List String := ["customer", "user", "client"]

def detailWords : List String := ["name", "email", "detail", "info"]

def statuses : List String := ["completed", "pending", "cancelled"]

def maxLimit : Nat := 0x7fffffffffffffff

structure Query where
  collection : String
  pipeline : List Document

def wantsJoin (question : String) : Bool :=
  Text.containsText "order" question
    && customerWords.any (fun word => Text.containsText word question)
    && detailWords.any (fun word => Text.containsText word question)

def statusFilter (question : String) : Document :=
  match statuses.find? fun status => Text.containsText status question with
  | some status => [("status", .text status)]
  | none => []

def joinPipeline (filter : Document) (limit : Nat) : List Document :=
  [[("$match", .document filter)],
   [("$lookup", .document
     [("from", .text customers), ("localField", .text "customerId"),
      ("foreignField", .text "_id"), ("as", .text "customer_info")])],
   [("$unwind", .document
     [("path", .text "$customer_info"), ("preserveNullAndEmptyArrays", .bool true)])],
   [("$project", .document
     [("_id", .int 0), ("status", .int 1), ("amount", .int 1), ("quantity", .int 1),
      ("customer_name", .text "$customer_info.name"),
      ("customer_email", .text "$customer_info.email")])],
   [("$limit", .long (Int64.ofNat (min limit maxLimit)))]]

def query? (question : String) (index : Index) (limit : Nat) : Option Query :=
  let small := Text.lowercase question
  if wantsJoin small && index.contains orders && index.contains customers then
    some ⟨orders, joinPipeline (statusFilter small) limit⟩
  else none

end Inquiry.Canned
