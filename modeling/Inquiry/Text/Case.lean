import Inquiry.Text.Property

/-!
Lower and upper case. A capital sigma becomes `ς` where it ends a word and `σ` elsewhere; no other
mapping looks at its surroundings.
-/
namespace Inquiry.Text

def imageOn (runs : List (Nat × Nat × Nat × Nat)) (c : Char) : Char :=
  match runs.find? fun (first, last, step, _) =>
      first ≤ c.toNat && c.toNat ≤ last && (c.toNat - first) % step == 0 with
  | some (first, _, _, image) => Char.ofNat (image + (c.toNat - first))
  | none => c

/-- Only the capital I with a dot has a small form of two characters. -/
def lowerChar (c : Char) : List Char :=
  if isAscii c then [c.toLower]
  else if c == 'İ' then ['i', '\u0307']
  else [imageOn Table.toLower c]

def upperChar (c : Char) : List Char :=
  if isAscii c then [c.toUpper]
  else match Table.toUpperMany.find? (·.1 == c.toNat) with
    | some (_, image) => image.map Char.ofNat
    | none => [imageOn Table.toUpper c]

def casedNext (text : List Char) : Bool :=
  match text.dropWhile isCaseIgnorable with
  | c :: _ => isCased c
  | [] => false

/-- Lower case of `text`, where `before` holds what precedes it, nearest character first. -/
def lowerAfter (before : List Char) : List Char → List Char
  | [] => []
  | c :: rest =>
    (if c == 'Σ' then [if casedNext before && !casedNext rest then 'ς' else 'σ'] else lowerChar c)
      ++ lowerAfter (c :: before) rest

def lower (text : List Char) : List Char := lowerAfter [] text

def lowercase (text : String) : String := String.ofList (lower text.toList)

end Inquiry.Text
