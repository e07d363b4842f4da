import Inquiry.Query.Bracket
import Inquiry.Query.ValueCall
import Inquiry.Query.Relaxed

/-!
Documents written in relaxed notation, and the calls chained onto a query: `find` with a chain is
the pipeline that does the same, in the order in which a cursor applies its settings.
-/
namespace Inquiry.Query

def json (now : Int) (text : List Char) : Except Json.Fault Json :=
  match Json.read text with
  | .ok value => .ok value
  | .error _ => Json.read (Relaxed.strict (ValueCall.expand now text))

def value (now : Int) (text : List Char) : Except Fault Value :=
  match json now text with
  | .error fault => .error (.invalidDocument (.malformed fault))
  | .ok tree =>
    match Extended.value? tree with
    | some value => .ok value
    | none => .error (.invalidDocument .misshapen)

def document (now : Int) (text : List Char) : Except Fault Document := do
  match ← value now text with
  | .document fields => .ok fields
  | other => .error (.invalidDocument (.notObject other))

def optionalDocument (now : Int) (text : List Char) : Except Fault Document := do
  match ← Bracket.group? '\x7b' text with
  | some group => document now group
  | none => .ok []

structure Call where
  method : String
  argument : List Char

def isMethodChar (c : Char) : Bool := Text.isAlphanumeric c || c == '_'

/-- The call at the start of a text, and what follows it when its bracket is closed. -/
def call? (text : List Char) : Option (Call × List Char) := do
  let rest := Text.trimStart (← Text.after? ['.'] (Text.trimStart text))
  let method := rest.takeWhile isMethodChar
  let rest ← Text.after? ['('] (Text.trimStart (rest.dropWhile isMethodChar))
  if method.isEmpty then none
  match Bracket.closeCall? rest with
  | some (argument, following) => return (⟨String.ofList method, argument⟩, following)
  | none => return (⟨String.ofList method, rest⟩, [])

private theorem after_length {lead text rest : List Char} (found : Text.after? lead text = some rest) :
    rest.length + lead.length = text.length := by
  induction lead generalizing text with
  | nil => simp [Text.after?] at found; simp [found]
  | cons a lead ih =>
    cases text with
    | nil => simp [Text.after?] at found
    | cons b text =>
      simp only [Text.after?] at found
      split at found
      · have := ih found; simp; omega
      · simp at found

private theorem trimStart_length (text : List Char) : (Text.trimStart text).length ≤ text.length :=
  (List.dropWhile_sublist _).length_le

private theorem splitClose_length {quote : Bracket.Quote} {depth : Nat} {text inside after : List Char}
    (found : Bracket.splitClose quote depth text = some (inside, after)) :
    after.length < text.length := by
  induction text generalizing quote depth inside with
  | nil => simp [Bracket.splitClose] at found
  | cons c rest ih =>
    simp only [Bracket.splitClose] at found
    split at found
    · simp_all
    · simp only [Option.map_eq_some_iff, Prod.exists, Prod.mk.injEq] at found
      obtain ⟨_, _, deeper, _, rfl⟩ := found
      have := ih deeper
      simp; omega

/-- A call takes at least its dot from the text. -/
theorem call_length {text rest : List Char} {call : Call} (found : call? text = some (call, rest)) :
    rest.length < text.length := by
  simp only [call?, bind, Option.bind_eq_some_iff] at found
  obtain ⟨dotted, hdot, opened, hopen, found⟩ := found
  have h1 := after_length hdot
  have h2 := trimStart_length text
  have h3 := after_length hopen
  have h4 := trimStart_length ((Text.trimStart dotted).dropWhile isMethodChar)
  have h5 := (List.dropWhile_sublist (l := Text.trimStart dotted) isMethodChar).length_le
  have h6 := trimStart_length dotted
  simp at h1 h3
  split at found
  · simp at found
  · split at found
    · next closed =>
      have := splitClose_length closed
      simp [pure] at found
      obtain ⟨_, rfl⟩ := found
      omega
    · simp [pure] at found
      obtain ⟨_, rfl⟩ := found
      simp; omega

def chain (text : List Char) : List Call :=
  match _found : call? text with
  | some (call, rest) => call :: chain rest
  | none => []
termination_by text.length
decreasing_by exact call_length _found

def isNeutral (call : Call) : Bool := call.method == "pretty" || call.method == "toArray"

def rejectCalls (calls : List Call) : Except Fault Unit :=
  match calls.find? fun call => !isNeutral call with
  | some call => .error (.unsupportedMethod call.method)
  | none => .ok ()

structure Cursor where
  sort : Option Document
  skip : Option Int
  limit : Option Int

def cursorNumber (call : Call) : Except Fault Int :=
  match Decimal.intWithin? (-Decimal.int64Bound) (Decimal.int64Bound - 1) (Text.trim call.argument) with
  | some n => .ok n
  | none => .error (.invalidArgument call.method)

def sortOrder (now : Int) (call : Call) : Except Fault Document := do
  match ← Bracket.group? '\x7b' call.argument with
  | some group => document now group
  | none => .error (.invalidArgument call.method)

/-- The settings after a chain, or `none` where the chain counts. -/
def Cursor.follow (now : Int) (cursor : Cursor) : List Call → Except Fault (Option Cursor)
  | [] => .ok (some cursor)
  | call :: rest =>
    match call.method with
    | "count" | "countDocuments" => .ok none
    | "sort" => do
      let order ← sortOrder now call
      Cursor.follow now { cursor with sort := some order } rest
    | "skip" => do
      let n ← cursorNumber call
      Cursor.follow now { cursor with skip := some n } rest
    | "limit" => do
      let n ← cursorNumber call
      Cursor.follow now { cursor with limit := some n } rest
    | "pretty" | "toArray" => Cursor.follow now cursor rest
    | method => .error (.unsupportedMethod method)

def stage (operator : String) (value : Value) : Document := [(operator, value)]

def matchStage (filter : Document) : List Document :=
  if filter.isEmpty then [] else [stage "$match" (.document filter)]

def sortStage : Option Document → List Document
  | some order => [stage "$sort" (.document order)]
  | none => []

def skipStage : Option Int → List Document
  | some n => if 0 < n then [stage "$skip" (.long (Int64.ofInt n))] else []
  | none => []

def limitStage : Option Int → List Document
  | some n => if n ≠ 0 then [stage "$limit" (.long (Int64.ofInt n.natAbs))] else []
  | none => []

def projectStage : Option Document → List Document
  | some projection => [stage "$project" (.document projection)]
  | none => []

def pipelineOf (filter : Document) (cursor : Cursor) (projection : Option Document) :
    List Document :=
  matchStage filter ++ sortStage cursor.sort ++ skipStage cursor.skip ++ limitStage cursor.limit
    ++ projectStage projection

def projection? (now : Int) : List (List Char) → Except Fault (Option Document)
  | _ :: raw :: _ => do
    let fields ← optionalDocument now raw
    return if fields.isEmpty then none else some fields
  | _ => .ok none

def findOperation (now : Int) (arguments : List Char) (calls : List Call) :
    Except Fault Operation := do
  let parts := Bracket.arguments arguments
  let filter ← optionalDocument now (parts.headD [])
  let projection ← projection? now parts
  match ← Cursor.follow now ⟨none, none, none⟩ calls with
  | none => return .count filter
  | some ⟨none, none, none⟩ =>
    match projection with
    | none => return .find filter
    | some _ => return .aggregate (pipelineOf filter ⟨none, none, none⟩ projection)
  | some cursor => return .aggregate (pipelineOf filter cursor projection)

end Inquiry.Query
