import Inquiry.Query.Cursor

/-!
A query from a text: the first read call in it, fences of code blocks aside. What is malformed is
a fault and never a broader query.
-/
namespace Inquiry.Query

def isFence (line : List Char) : Bool := Text.startsWith "```".toList (Text.trimStart line)

def withoutFences (text : List Char) : List Char :=
  Text.joined ['\n'] ((Text.lines text).filter fun line => !isFence line)

inductive Method where
  | find
  | aggregate
  | count
deriving DecidableEq

structure Invocation where
  collection : String
  method : Method
  rest : List Char

def methods : List (String × Method) :=
  [("find(", .find), ("aggregate(", .aggregate), ("countDocuments(", .count), ("count(", .count)]

def method? (text : List Char) : Option (Method × List Char) :=
  methods.findSome? fun (name, method) => (Text.after? name.toList text).map (method, ·)

def commandHere? (text : List Char) : Option Invocation := do
  let rest ← Text.after? "db.".toList text
  let collection := rest.takeWhile Text.isWordChar
  if collection.isEmpty then none
  let rest ← Text.after? ['.'] (rest.dropWhile Text.isWordChar)
  let (method, rest) ← method? rest
  return ⟨String.ofList collection, method, rest⟩

def command? : List Char → Option Invocation
  | [] => none
  | c :: rest =>
    match commandHere? (c :: rest) with
    | some command => some command
    | none => command? rest

def stages (index : Nat) : List Value → Except Fault (List Document)
  | [] => .ok []
  | .document fields :: rest => do
    let others ← stages (index + 1) rest
    return fields :: others
  | _ :: _ => .error (.invalidStage index)

def pipeline (now : Int) (text : List Char) : Except Fault (List Document) := do
  match ← value now text with
  | .list items => stages 0 items
  | _ => .error .missingPipeline

def aggregateOperation (now : Int) (arguments : List Char) (calls : List Call) :
    Except Fault Operation := do
  rejectCalls calls
  match ← Bracket.group? '[' arguments with
  | some group => return .aggregate (← pipeline now group)
  | none => .error .missingPipeline

def countOperation (now : Int) (arguments : List Char) (calls : List Call) :
    Except Fault Operation := do
  rejectCalls calls
  return .count (← optionalDocument now arguments)

/-- The arguments and the chain of a call; one that is not closed takes the whole rest. -/
def callParts (rest : List Char) : List Char × List Call :=
  match Bracket.closeCall? rest with
  | some (arguments, after) => (arguments, chain after)
  | none => (rest, [])

def operationOf (now : Int) (command : Invocation) : Except Fault Operation :=
  let (arguments, calls) := callParts command.rest
  match command.method with
  | .find => findOperation now arguments calls
  | .aggregate => aggregateOperation now arguments calls
  | .count => countOperation now arguments calls

def ofCode (now : Int) (code : List Char) : Except Fault Query :=
  match command? code with
  | none => .error .noCommand
  | some command => do return ⟨command.collection, ← operationOf now command⟩

/-- The query in a text; `now` in milliseconds stands for dates that name no instant. -/
def ofText (now : Int) (text : String) : Except Fault Query := ofCode now (withoutFences text.toList)

end Inquiry.Query
