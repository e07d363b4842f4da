/-!
Language models. A scripted model gives its replies in turn and repeats the last; without a script
it gives back the prompt. A service may fail.
-/
namespace Inquiry

inductive Completion.Fault where
  | unknownProvider (name : String)
  | request (detail : String)
deriving DecidableEq

def Completion.Fault.message : Fault → String
  | .unknownProvider name => "unknown provider: " ++ name
  | .request detail => "provider request failed: " ++ detail

structure Prompt where
  system : String
  user : String
deriving DecidableEq

inductive Model where
  | scripted (replies : List String) (calls : Nat)
  | service (label : String) (reply : Prompt → Except Completion.Fault String)

namespace Model

def label : Model → String
  | scripted .. => "dummy"
  | service label _ => label

def calls : Model → Nat
  | scripted _ calls => calls
  | service .. => 0

def echo (prompt : Prompt) : String := "[echo] " ++ prompt.user

def complete (model : Model) (prompt : Prompt) : Except Completion.Fault String × Model :=
  match model with
  | scripted [] calls => (.ok (echo prompt), scripted [] (calls + 1))
  | scripted [reply] calls => (.ok reply, scripted [reply] (calls + 1))
  | scripted (reply :: more) calls => (.ok reply, scripted more (calls + 1))
  | service label reply => (reply prompt, service label reply)

end Model
end Inquiry
