import Inquiry.Answer.Suggestion
import Inquiry.Completion.Basic
import Inquiry.Embedding.Basic
import Inquiry.Gate.Basic
import Inquiry.Store.Basic

/-! Replies to questions, and the words they are given in. -/
namespace Inquiry

inductive Reply where
  | answered (text : String)
  | questionBlocked
  | notRelated
  | unable
  | modificationRefused
  | outOfScope
  | embeddingFailed (fault : Embedding.Fault)
  | completionFailed (fault : Completion.Fault)
  | scriptBlocked (blocked : Blocked)
  | unreadable (fault : Query.Fault) (code : String)
  | unknownCollection (name code : String)
  | queryFailed (fault : Store.Fault) (code question : String)

namespace Reply

inductive Status where
  | answered
  | blocked
  | outOfScope
  | unanswerable
  | modelError
  | queryError
deriving DecidableEq

def status : Reply → Status
  | answered _ => .answered
  | questionBlocked | modificationRefused | scriptBlocked _ => .blocked
  | notRelated | outOfScope => .outOfScope
  | unable => .unanswerable
  | embeddingFailed _ | completionFailed _ => .modelError
  | unreadable .. | unknownCollection .. | queryFailed .. => .queryError

def unreadableText (detail code : String) : String :=
  "⚠ Could not parse the generated query: " ++ detail ++ "\nGenerated query: " ++ code

def text : Reply → String
  | answered text => text
  | questionBlocked =>
    "❌ Database modification queries are not allowed. You can only view/query data."
  | notRelated =>
    "❌ This question is not related to the database. Please ask something about the data in MongoDB."
  | unable => "⚠ I cannot construct a valid query for this question with the available schema."
  | modificationRefused => "❌ Database modification is not allowed. This system is read-only."
  | outOfScope => "❌ This question is not related to the database."
  | embeddingFailed fault => "⚠ ERROR: " ++ fault.message
  | completionFailed fault => "⚠ ERROR: " ++ fault.message
  | scriptBlocked blocked =>
    "❌ Query blocked: it uses `" ++ blocked.pattern ++
      "`, which modifies data. This system is read-only."
  | unreadable fault code => unreadableText fault.message code
  | unknownCollection name code =>
    "⚠ The generated query uses unknown collection `" ++ name ++ "`.\nGenerated query: " ++ code
  | queryFailed fault code question =>
    "⚠ Query failed: " ++ fault.message ++ "\nGenerated query: " ++ code ++ "\n\n"
      ++ Answer.failureHints question

end Reply
end Inquiry
