import Inquiry.Settings.Reading
import Inquiry.Text.Cut

/-!
A file of variables for the environment: a line `NAME=value` each, with comments, quotes, escapes
and references `$NAME` or `${NAME}` to variables before. What is malformed ends the file.
-/
namespace Inquiry.EnvironmentFile

inductive Place where
  | plain
  | blank
  | escape
  | weak
  | weakEscape
  | strong
  | strongEscape
  | comment
deriving DecidableEq

def isInlineBlank (c : Char) : Bool := Text.isWhitespace c && c ≠ '\n' && c ≠ '\r'

def opening (c : Char) : Place :=
  if c = '\\' then .escape
  else if c = '"' then .weak
  else if c = '\'' then .strong
  else .plain

def Place.after : Place → Char → Place
  | .blank, c => if c = '#' then .comment else opening c
  | .plain, c => if isInlineBlank c then .blank else opening c
  | .escape, _ => .plain
  | .weak, c => if c = '\\' then .weakEscape else if c = '"' then .plain else .weak
  | .weakEscape, _ => .weak
  | .strong, c => if c = '\\' then .strongEscape else if c = '\'' then .plain else .strong
  | .strongEscape, _ => .strong
  | .comment, _ => .comment

/-- The place after a physical line, whose characters before a comment go to `seen`. -/
def scanLine (place : Place) (seen : List Char) : List Char → Place × List Char
  | [] => (place, seen)
  | c :: rest =>
    if place.after c = .comment then (.comment, seen)
    else scanLine (place.after c) (c :: seen) rest

def physicalLines (line : List Char) : List Char → List (List Char)
  | [] => if line.isEmpty then [] else [line.reverse]
  | c :: rest =>
    if c = '\n' then (c :: line).reverse :: physicalLines [] rest else physicalLines (c :: line) rest

def isCommentLine (text : List Char) : Bool := Text.startsWith ['#'] (Text.trimStart text)

/-- Logical lines; a quote that is still open continues on the next one. One left open is none. -/
def logicalLines (place : Place) (seen : List Char) : List (List Char) → List (Option (List Char))
  | [] => if place = .plain then [] else [none]
  | line :: rest =>
    if isCommentLine (seen.reverse ++ line) then some [] :: logicalLines .plain [] rest
    else
      match scanLine place seen line with
      | (.plain, seen) | (.comment, seen) => some seen.reverse :: logicalLines .plain [] rest
      | (place, seen) => logicalLines place seen rest

structure Known where
  environment : Settings.Environment
  said : List (String × String)

def Known.value (known : Known) (name : List Char) : List Char :=
  let name := String.ofList name
  match Settings.valueOf? known.environment name with
  | some value => value.toList
  | none => ((Settings.valueOf? known.said name).getD "").toList

/-- Where in a value a character stands; names of references are kept last character first. -/
inductive Mode where
  | bare
  | quoted
  | strong
  | escape (isQuoted : Bool)
  | reference (isQuoted : Bool) (name : List Char)
  | block (isQuoted : Bool) (name : List Char)
  | ended

def unquoted (isQuoted : Bool) : Mode := if isQuoted then .quoted else .bare

def escaped? (c : Char) : Option Char :=
  if "\\'\"$ ".toList.contains c then some c else if c = 'n' then some '\n' else none

def readValue (known : Known) (mode : Mode) (output : List Char) :
    List Char → Option (List Char)
  | [] =>
    match mode with
    | .bare | .ended | .escape false => some output.reverse
    | .reference false name => some (output.reverse ++ known.value name.reverse)
    | _ => none
  | c :: rest =>
    match mode with
    | .ended =>
      if c = ' ' || c = '\t' then readValue known .ended output rest
      else if c = '#' then some output.reverse
      else none
    | .escape isQuoted =>
      (escaped? c).bind fun meant => readValue known (unquoted isQuoted) (meant :: output) rest
    | .strong =>
      if c = '\'' then readValue known .bare output rest
      else readValue known .strong (c :: output) rest
    | .reference isQuoted name =>
      if Text.isAlphanumeric c then readValue known (.reference isQuoted (c :: name)) output rest
      else if c = '\x7b' && name.isEmpty then readValue known (.block isQuoted []) output rest
      else
        let output := (known.value name.reverse).reverse ++ output
        if c = '$' then readValue known (.reference isQuoted []) output rest
        else readValue known (unquoted isQuoted) (c :: output) rest
    | .block isQuoted name =>
      if c = '\x7d' then
        readValue known (unquoted isQuoted) ((known.value name.reverse).reverse ++ output) rest
      else readValue known (.block isQuoted (c :: name)) output rest
    | .quoted =>
      if c = '$' then readValue known (.reference true []) output rest
      else if c = '"' then readValue known .bare output rest
      else if c = '\\' then readValue known (.escape true) output rest
      else readValue known .quoted (c :: output) rest
    | .bare =>
      if c = '$' then readValue known (.reference false []) output rest
      else if c = '\'' then readValue known .strong output rest
      else if c = '"' then readValue known .quoted output rest
      else if c = '\\' then readValue known (.escape false) output rest
      else if c = ' ' || c = '\t' then readValue known .ended output rest
      else readValue known .bare (c :: output) rest

def isNameStart (c : Char) : Bool := c.isAlpha || c = '_'

def isNameChar (c : Char) : Bool := c.isAlphanum || c = '_' || c = '.'

def name? (text : List Char) : Option (List Char × List Char) :=
  if (text.head?.map isNameStart).getD false then
    some (text.takeWhile isNameChar, Text.trimStart (text.dropWhile isNameChar))
  else none

def afterEquals? : List Char → Option (List Char)
  | '=' :: rest => some rest
  | _ => none

def assignment? (text : List Char) : Option (List Char × List Char) := do
  let (name, rest) ← name? text
  match afterEquals? rest with
  | some value => return (name, value)
  | none =>
    if name = "export".toList then
      let (name, rest) ← name? rest
      return (name, ← afterEquals? rest)
    else none

def assigned? (known : Known) (line : List Char) : Option (Option (String × String)) :=
  match Text.trimStart (Text.trimEnd line) with
  | [] | '#' :: _ => some none
  | text => do
    let (name, value) ← assignment? text
    match Text.trimStart value with
    | [] | '#' :: _ => return some (String.ofList name, "")
    | value => return some (String.ofList name, String.ofList (← readValue known .bare [] value))

/-- A variable that is set already keeps its value. -/
def Known.set (known : Known) (name value : String) : Known where
  environment :=
    if (Settings.valueOf? known.environment name).isSome then known.environment
    else known.environment ++ [(name, value)]
  said := (name, value) :: known.said

def apply (known : Known) : List (Option (List Char)) → Settings.Environment
  | [] | none :: _ => known.environment
  | some line :: rest =>
    match assigned? known line with
    | none => known.environment
    | some none => apply known rest
    | some (some (name, value)) => apply (known.set name value) rest

def extend (environment : Settings.Environment) (text : String) : Settings.Environment :=
  let chars := match text.toList with
    | '\uFEFF' :: rest => rest
    | chars => chars
  apply ⟨environment, []⟩ (logicalLines .plain [] (physicalLines [] chars))

end Inquiry.EnvironmentFile
