import Inquiry.Text.Property

/-! Cutting texts: lines, words, surrounding whitespace, and a text inside another or in its place. -/
namespace Inquiry.Text

def trimStart (text : List Char) : List Char := text.dropWhile isWhitespace

def trimEnd (text : List Char) : List Char := (text.reverse.dropWhile isWhitespace).reverse

def trim (text : List Char) : List Char := trimEnd (trimStart text)

def trimmed (text : String) : String := String.ofList (trim text.toList)

def trimmedEnd (text : String) : String := String.ofList (trimEnd text.toList)

def truncated (length : Nat) (text : String) : String := String.ofList (text.toList.take length)

def after? : List Char → List Char → Option (List Char)
  | [], text => some text
  | _ :: _, [] => none
  | a :: lead, b :: text => if a = b then after? lead text else none

def startsWith (lead text : List Char) : Bool := (after? lead text).isSome

def splitAt? (part : List Char) : List Char → Option (List Char × List Char)
  | [] => if part.isEmpty then some ([], []) else none
  | c :: rest =>
    match after? part (c :: rest) with
    | some following => some ([], following)
    | none => (splitAt? part rest).map fun (before, following) => (c :: before, following)

def contains (part text : List Char) : Bool := (splitAt? part text).isSome

def containsText (part text : String) : Bool := contains part.toList text.toList

/-- Replaces what is found at the start of a text or later, from the left; `found` has what takes its
place and what follows it, and `skip` characters belong to the last part found. -/
def replaceAfter (found : List Char → Option (List Char × List Char)) :
    Nat → List Char → List Char
  | _, [] => []
  | skip + 1, _ :: rest => replaceAfter found skip rest
  | 0, c :: rest =>
    match found (c :: rest) with
    | some (replacement, following) =>
      replacement ++ replaceAfter found (rest.length - following.length) rest
    | none => c :: replaceAfter found 0 rest

def replaceAll (found : List Char → Option (List Char × List Char)) (text : List Char) : List Char :=
  replaceAfter found 0 text

def dropReturn (line : List Char) : List Char :=
  if line.getLast? = some '\r' then line.dropLast else line

/-- Lines end at line feeds; a text that ends in a line feed has no empty line after it. -/
def lines (text : List Char) : List (List Char) :=
  let pieces := text.splitOn '\n'
  let closed := pieces.dropLast.map dropReturn
  match pieces.getLast? with
  | none | some [] => closed
  | some last => closed ++ [last]

def runs (keep : Char → Bool) (text : List Char) : List (List Char) :=
  (text.splitOnP fun c => !keep c).filter fun run => !run.isEmpty

def joined (between : List Char) (parts : List (List Char)) : List Char :=
  between.intercalate parts

end Inquiry.Text
