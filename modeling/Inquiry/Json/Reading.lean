import Inquiry.Json.Literal

/-!
From a text to a value, by a machine that takes one character at a time and has a stack of the
containers that are still open, so a text can be cut anywhere. `parse?` knows the notation only;
`read` also holds a value to the limits on depth and magnitude.
-/
namespace Inquiry.Json

/-- An open container: what it holds so far, last first, and the key of an object's next entry. -/
inductive Frame where
  | list (items : List Json)
  | object (entries : List (String × Json)) (key : String)

inductive State where
  /-- A value must come, or the end of a list that has just been opened. -/
  | value (orClose : Bool) (stack : List Frame)
  /-- A key must come, or the end of an object that has just been opened. -/
  | field (orClose : Bool) (entries : List (String × Json)) (stack : List Frame)
  | colon (key : String) (entries : List (String × Json)) (stack : List Frame)
  | after (value : Json) (stack : List Frame)

structure Reader where
  literal : Option Literal
  state : State

inductive Limits where
  | none
  | usual
deriving DecidableEq

def Limits.tooDeep (limits : Limits) (stack : List Frame) : Bool :=
  limits = .usual && maxDepth ≤ stack.length

def Limits.tooLarge (limits : Limits) : Json → Bool
  | .number .beyond => limits = .usual
  | _ => false

def beginLiteral (state : State) (cause : Cause) (c : Char) : Except Cause Reader :=
  match Literal.ofChar? c with
  | some literal => .ok ⟨some literal, state⟩
  | none => .error cause

def closeEmpty (orClose : Bool) (stack : List Frame) : Except Cause State :=
  match orClose, stack with
  | true, .list items :: stack => .ok (.after (.list items.reverse) stack)
  | false, .list _ :: _ => .error .trailingComma
  | _, _ => .error .noValue

def opened (limits : Limits) (stack : List Frame) (state : State) : Except Cause State :=
  if limits.tooDeep stack then .error .depth else .ok state

def beginValue (limits : Limits) (orClose : Bool) (stack : List Frame) (c : Char) :
    Except Cause Reader :=
  if c == '[' then (opened limits stack (.value true (.list [] :: stack))).map (⟨none, ·⟩)
  else if c == '\x7b' then (opened limits stack (.field true [] stack)).map (⟨none, ·⟩)
  else if c == ']' then (closeEmpty orClose stack).map (⟨none, ·⟩)
  else beginLiteral (.value orClose stack) .noValue c

def beginField (orClose : Bool) (entries : List (String × Json)) (stack : List Frame) (c : Char) :
    Except Cause Reader :=
  if c == '"' then .ok ⟨some (.text .plain []), .field orClose entries stack⟩
  else if c == '\x7d' then
    if orClose then .ok ⟨none, .after (.object entries.reverse) stack⟩ else .error .trailingComma
  else .error .noKey

def afterValue (value : Json) : List Frame → Char → Except Cause State
  | [], _ => .error .trailing
  | .list items :: stack, c =>
    if c == ',' then .ok (.value false (.list (value :: items) :: stack))
    else if c == ']' then .ok (.after (.list (value :: items).reverse) stack)
    else .error .noListComma
  | .object entries key :: stack, c =>
    if c == ',' then .ok (.field false ((key, value) :: entries) stack)
    else if c == '\x7d' then .ok (.after (.object ((key, value) :: entries).reverse) stack)
    else .error .noObjectComma

def State.step (limits : Limits) (state : State) (c : Char) : Except Cause Reader :=
  if isBlank c then .ok ⟨none, state⟩
  else match state with
    | .value orClose stack => beginValue limits orClose stack c
    | .field orClose entries stack => beginField orClose entries stack c
    | .colon key entries stack =>
      if c == ':' then .ok ⟨none, .value false (.object entries key :: stack)⟩ else .error .noColon
    | .after v stack => (afterValue v stack c).map (⟨none, ·⟩)

def State.take (limits : Limits) (state : State) (meant : Json) : Except Cause State :=
  match state, meant with
  | .field _ entries stack, .text key => .ok (.colon key entries stack)
  | .value _ stack, v => if limits.tooLarge v then .error .range else .ok (.after v stack)
  | state, _ => .ok state

def Reader.step (limits : Limits) (reader : Reader) (c : Char) : Except Cause Reader :=
  match reader.literal with
  | none => reader.state.step limits c
  | some literal => do
    match ← literal.step c with
    | .goesOn literal => return ⟨some literal, reader.state⟩
    | .ends value => return ⟨none, ← reader.state.take limits value⟩
    | .endsBefore value => (← reader.state.take limits value).step limits c

def State.finish : State → Except Cause Json
  | .value true (.list _ :: _) => .error .endInList
  | .value _ _ => .error .endInValue
  | .field true _ _ => .error .endInObject
  | .field false _ _ => .error .endInValue
  | .colon _ _ _ => .error .endInObject
  | .after v [] => .ok v
  | .after _ (.list _ :: _) => .error .endInList
  | .after _ (.object _ _ :: _) => .error .endInObject

def Reader.finish (limits : Limits) (reader : Reader) : Except Cause Json :=
  match reader.literal with
  | none => reader.state.finish
  | some literal => do (← reader.state.take limits (← literal.finish)).finish

def Reader.run (limits : Limits) (place : Place) (reader : Reader) : List Char → Except Fault Json
  | [] => (reader.finish limits).mapError (⟨·, place⟩)
  | c :: rest =>
    match reader.step limits c with
    | .ok next => Reader.run limits (place.after c) next rest
    | .error cause => .error (cause.faultAt place c)

def Reader.start : Reader := ⟨none, .value false []⟩

def parse? (text : List Char) : Option Json := (Reader.start.run .none .start text).toOption

def read (text : List Char) : Except Fault Json := Reader.start.run .usual .start text

end Inquiry.Json
