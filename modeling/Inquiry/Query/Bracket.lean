import Inquiry.Query.Basic
import Inquiry.Text.Cut

/-!
Brackets outside quoted strings. Both kinds of quotes hide what stands between them, and a
backslash inside a string hides the character after it. Every function here splits its text: what
it returns and what it leaves are pieces of what it was given.
-/
namespace Inquiry.Bracket

inductive Quote where
  | outside
  | inside (mark : Char)
  | escaped (mark : Char)
deriving DecidableEq

def isQuote (c : Char) : Bool := c == '"' || c == '\''

def Quote.next (quote : Quote) (c : Char) : Quote :=
  match quote with
  | .outside => if isQuote c then .inside c else .outside
  | .inside mark =>
    if c == '\\' then .escaped mark else if c == mark then .outside else .inside mark
  | .escaped mark => .inside mark

def Quote.sees (quote : Quote) (c : Char) : Bool := quote == .outside && !isQuote c

def opens (c : Char) : Bool := c == '(' || c == '\x7b' || c == '['

def closes (c : Char) : Bool := c == ')' || c == '\x7d' || c == ']'

/-- Open brackets after `c`; a closing one that closes nothing is passed over. -/
def depthAfter (quote : Quote) (depth : Nat) (c : Char) : Nat :=
  if quote.sees c && opens c then depth + 1
  else if quote.sees c && closes c then depth - 1
  else depth

/-- The text before the bracket that closes one more than `depth` brackets, and the text after it. -/
def splitClose (quote : Quote) (depth : Nat) : List Char → Option (List Char × List Char)
  | [] => none
  | c :: rest =>
    if quote.sees c && closes c && depth == 0 then some ([], rest)
    else (splitClose (quote.next c) (depthAfter quote depth c) rest).map fun (inside, after) =>
      (c :: inside, after)

def closeCall? (text : List Char) : Option (List Char × List Char) := splitClose .outside 0 text

/-- Pieces between the commas that stand in no bracket, blank ones included. -/
def pieces (quote : Quote) (depth : Nat) : List Char → List (List Char)
  | [] => [[]]
  | c :: rest =>
    if quote.sees c && c == ',' && depth == 0 then [] :: pieces .outside 0 rest
    else match pieces (quote.next c) (depthAfter quote depth c) rest with
      | [] => [[c]]
      | piece :: others => (c :: piece) :: others

def isBlank (text : List Char) : Bool := text.all Text.isWhitespace

def arguments (text : List Char) : List (List Char) :=
  (pieces .outside 0 text).filter fun piece => !isBlank piece

/-- The rest of a group through the bracket that closes it; round brackets do not count. -/
def groupTail? (quote : Quote) (depth : Nat) : List Char → Option (List Char)
  | [] => none
  | c :: rest =>
    if quote.sees c && (c == '\x7b' || c == '[') then
      (groupTail? .outside (depth + 1) rest).map (c :: ·)
    else if quote.sees c && (c == '\x7d' || c == ']') then
      match depth with
      | 0 => some [c]
      | outer + 1 => (groupTail? .outside outer rest).map (c :: ·)
    else (groupTail? (quote.next c) depth rest).map (c :: ·)

def fromBracket? (bracket : Char) (quote : Quote) : List Char → Option (List Char)
  | [] => none
  | c :: rest =>
    if quote.sees c && c == bracket then some rest
    else fromBracket? bracket (quote.next c) rest

/-- The first group that `bracket` opens, if any; opened and not closed it is a fault. -/
def group? (bracket : Char) (text : List Char) : Except Query.Fault (Option (List Char)) :=
  match fromBracket? bracket .outside text with
  | none => .ok none
  | some rest =>
    match groupTail? .outside 0 rest with
    | some tail => .ok (some (bracket :: tail))
    | none => .error (.unbalanced bracket)

end Inquiry.Bracket
