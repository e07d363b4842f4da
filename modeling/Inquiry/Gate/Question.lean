import Inquiry.Gate.Basic
import Inquiry.Text.Case
import Inquiry.Text.Cut

/-!
The question gate: a word that begins like a write verb blocks a question. A few words and a few
pairs of neighbouring words read the same and only ask.
-/
namespace Inquiry.Gate

def stems : List (String × String) :=
  [("drop", "drop"), ("delet", "delete"), ("updat", "update"), ("insert", "insert"),
   ("modif", "modify"), ("remov", "remove"), ("truncat", "truncate"), ("alter", "alter")]

def harmlessPairs : List (String × String) :=
  [("last", "updated"), ("recently", "updated"), ("last", "modified"), ("recently", "modified")]

def harmlessWords : List String := ["alternative", "alternatives", "alternate", "alternately"]

def verb? (word : List Char) : Option String :=
  (stems.find? fun stem => Text.startsWith stem.1.toList word).map (·.2)

def isHarmless (previous : Option (List Char)) (word : List Char) : Bool :=
  harmlessWords.any (fun harmless => harmless.toList = word) ||
    match previous with
    | some before => harmlessPairs.any fun pair => pair.1.toList = before && pair.2.toList = word
    | none => false

def screenWords (previous : Option (List Char)) : List (List Char) → Option Blocked
  | [] => none
  | word :: rest =>
    if isHarmless previous word then screenWords (some word) rest
    else match verb? word with
      | some verb => some ⟨verb⟩
      | none => screenWords (some word) rest

def words (text : List Char) : List (List Char) := Text.runs Text.isAlphanumeric (Text.lower text)

def screenQuestion (question : String) : Option Blocked := screenWords none (words question.toList)

end Inquiry.Gate
