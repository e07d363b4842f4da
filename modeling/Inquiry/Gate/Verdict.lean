import Inquiry.Text.Cut

/-! What a model answered with: a query, or one of the agreed refusals anywhere in its text. -/
namespace Inquiry.Gate

inductive Verdict where
  | query
  | unable
  | modificationRefused
  | outOfScope
deriving DecidableEq

def verdict (text : String) : Verdict :=
  if Text.containsText "UNABLE_TO_QUERY" text then .unable
  else if Text.containsText "MODIFICATION_NOT_ALLOWED" text then .modificationRefused
  else if Text.containsText "OUT_OF_SCOPE" text then .outOfScope
  else .query

end Inquiry.Gate
