import Inquiry.Toml.Atom
import Inquiry.Toml.Quoted
import Inquiry.Toml.Tree

/-! Reading a TOML file: keys, values, and lines that assign or open tables. -/
namespace Inquiry.Toml

/-- The bound on parts of a key and on containers inside one another. -/
def depthLimit : Nat := 80

def isBareKeyChar (c : Char) : Bool := c.isAlphanum || c = '-' || c = '_'

def keyPart? (text : List Char) : Option (String × List Char) :=
  match lineString? text with
  | some (part, rest) => some (String.ofList part, rest)
  | none =>
    let part := text.takeWhile isBareKeyChar
    if part.isEmpty then none else some (String.ofList part, text.dropWhile isBareKeyChar)

def keyParts? : Nat → List Char → Option (List String × List Char)
  | 0, _ => none
  | fuel + 1, text => do
    let (part, rest) ← keyPart? (skipBlanks text)
    match skipBlanks rest with
    | '.' :: rest =>
      let (parts, rest) ← keyParts? fuel rest
      return (part :: parts, rest)
    | rest => return ([part], rest)

def key? (text : List Char) : Option (List String × List Char) := keyParts? (depthLimit - 1) text

def skipSpace : Nat → List Char → List Char
  | 0, text => text
  | fuel + 1, text =>
    match skipBlanks text with
    | '#' :: rest =>
      match newline? (rest.dropWhile isPlain) with
      | some rest => skipSpace fuel rest
      | none => '#' :: rest
    | text =>
      match newline? text with
      | some rest => skipSpace fuel rest
      | none => text

def gap (text : List Char) : List Char := skipSpace text.length text

mutual

/-- A value, with at most `levels` containers inside one another; `fuel` bounds the steps. -/
def value? (fuel levels : Nat) (text : List Char) : Option (Toml × List Char) :=
  match fuel, text with
  | 0, _ => none
  | fuel + 1, '[' :: rest =>
    if levels = 0 then none else list? fuel (levels - 1) [] (gap rest)
  | fuel + 1, '\x7b' :: rest =>
    if levels = 0 then none
    else match skipBlanks rest with
      | '\x7d' :: rest => some (.table [], rest)
      | rest => inline? fuel (levels - 1) [] rest
  | _ + 1, text =>
    match string? text with
    | some (s, rest) => some (.string (String.ofList s), rest)
    | none => atom? text

/-- The items of a list from one of them on, `items` those before, last first. -/
def list? (fuel levels : Nat) (items : List Toml) (text : List Char) :
    Option (Toml × List Char) :=
  match fuel, text with
  | 0, _ => none
  | _ + 1, ']' :: rest => some (.list items.reverse, rest)
  | fuel + 1, text =>
    match value? fuel levels text with
    | none => none
    | some (item, rest) =>
      match gap rest with
      | ',' :: rest => list? fuel levels (item :: items) (gap rest)
      | ']' :: rest => some (.list (item :: items).reverse, rest)
      | _ => none

def inline? (fuel levels : Nat) (entries : Entries) (text : List Char) :
    Option (Toml × List Char) :=
  match fuel with
  | 0 => none
  | fuel + 1 =>
    match key? text with
    | some (key, '=' :: rest) =>
      match value? fuel levels (skipBlanks rest) with
      | none => none
      | some (value, rest) =>
        match assign? value key entries, skipBlanks rest with
        | some entries, ',' :: rest => inline? fuel levels entries rest
        | some entries, '\x7d' :: rest => some (.table (entriesToml entries), rest)
        | _, _ => none
    | _ => none

end

inductive Line where
  | assignment (key : List String) (value : Toml)
  | header (isElement : Bool) (key : List String)

def line? (text : List Char) : Option (Line × List Char) :=
  match text with
  | '[' :: '[' :: rest =>
    match key? rest with
    | some (key, ']' :: ']' :: rest) => some (.header true key, rest)
    | _ => none
  | '[' :: rest =>
    match key? rest with
    | some (key, ']' :: rest) => some (.header false key, rest)
    | _ => none
  | text =>
    match key? text with
    | some (key, '=' :: rest) =>
      (value? (2 * text.length + 2) (depthLimit - 1) (skipBlanks rest)).map fun (value, rest) =>
        (.assignment key value, rest)
    | _ => none

def lines? : Nat → List Char → Option (List Line)
  | 0, _ => none
  | fuel + 1, text =>
    match skipBlanks text with
    | [] => some []
    | text =>
      match endLine? text with
      | some rest => lines? fuel rest
      | none => do
        let (line, rest) ← line? text
        let rest ← endLine? rest
        let more ← lines? fuel rest
        return line :: more

structure Draft where
  entries : Entries
  header : List String

def Draft.add? (draft : Draft) : Line → Option Draft
  | .assignment key value => do
    return { draft with entries := ← within? (assign? value key) draft.header draft.entries }
  | .header isElement key => do return ⟨← open? isElement key draft.entries, key⟩

def ofLines? (lines : List Line) : Option Toml :=
  (lines.foldlM Draft.add? ⟨[], []⟩).map fun draft => .table (entriesToml draft.entries)

/-- The table of a whole file; a byte order mark in front does not count. -/
def ofText? (text : String) : Option Toml :=
  let chars := match text.toList with
    | '\uFEFF' :: rest => rest
    | chars => chars
  (lines? (chars.length + 2) chars).bind ofLines?

end Inquiry.Toml
