import Inquiry.Completion.Basic
import Inquiry.Prompt.Template
import Inquiry.Prompt.Usual

/-! The prompt that asks a model to write a query for one question. -/
namespace Inquiry.Prompt

def systemFile : String := "query_system.txt"

def userFile : String := "query_user.txt"

def values (context question : String) : Catalog String :=
  .ofList [("schema_context", context), ("question", question)]

def forQuestion (files : Files) (directory context question : String) : Prompt where
  system := Template.build [Template.layer files directory systemFile usualSystem] .empty
  user := Template.build [Template.layer files directory userFile usualUser] (values context question)

end Inquiry.Prompt
