import Inquiry.Text.Case
import Inquiry.Text.Cut

/-! Questions to try instead, chosen by what the question was about. -/
namespace Inquiry.Answer

def suggestions (question : String) : List String :=
  let small := Text.lowercase question
  if Text.containsText "sales" small || Text.containsText "revenue" small then
    ["total sales", "sales by city", "sales this year"]
  else if Text.containsText "customer" small then
    ["all customers", "top customers by spending", "customers by city"]
  else if Text.containsText "product" small then
    ["all products", "top selling products", "products by category"]
  else ["total sales", "customer count", "recent orders"]

def suggestionLines (question : String) : String :=
  "\n".intercalate ((suggestions question).map fun suggestion => "• '" ++ suggestion ++ "'")

def noResults (question : String) : String :=
  "No documents found matching your query.\n\nTry these alternatives:\n" ++ suggestionLines question

def failureHints (question : String) : String :=
  "Suggestions:\n• Try a broader question with fewer filters\n• Check that the data exists in the database\n\nExample questions:\n"
    ++ suggestionLines question

end Inquiry.Answer
