import Inquiry.Agent.Session

/-!
A conversation, line by line. Empty lines are passed over; `exit`, `quit`, the end of the input and
a line that is no text end it.
-/
namespace Inquiry.Conversation

def prompt : String := "> "

inductive Input where
  | line (text : String)
  | unreadable

/-- Bytes between line feeds; a carriage return before a line feed belongs to it. -/
def splitLines (line : List UInt8) : List UInt8 → List (List UInt8)
  | [] => if line.isEmpty then [] else [line.reverse]
  | byte :: rest =>
    if byte = 10 then
      (match line with
        | 13 :: before => before.reverse
        | line => line.reverse) :: splitLines [] rest
    else splitLines (byte :: line) rest

def inputOf (bytes : List UInt8) : Input :=
  match Utf8.decode? ⟨bytes.toArray⟩ with
  | some text => .line text
  | none => .unreadable

def inputs (bytes : ByteArray) : List Input := (splitLines [] bytes.toList).map inputOf

def isFarewell (text : String) : Bool := text.toLower = "exit" || text.toLower = "quit"

def replyText (reply : Reply) : String := reply.text ++ "\n\n"

def run (session : Session) (now : Int) : List Input → String × Session
  | [] => (prompt ++ "\n", session)
  | .unreadable :: _ => (prompt, session)
  | .line text :: rest =>
    let question := Text.trimmed text
    if question = "" then
      let (output, session) := run session now rest
      (prompt ++ output, session)
    else if isFarewell question then (prompt, session)
    else
      let (reply, session) := session.ask now question
      let (output, session) := run session now rest
      (prompt ++ replyText reply ++ output, session)

def shutDown : String := prompt ++ "\n"

end Inquiry.Conversation
