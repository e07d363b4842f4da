import Inquiry.Json.Literal
import Inquiry.Toml.Basic

/-! The four kinds of strings: basic with escapes or literal, on one line or on several. -/
namespace Inquiry.Toml

def isScalar (n : Nat) : Bool := n < 0xD800 || (0xE000 ≤ n && n < 0x110000)

def hexNumber (digits : List Char) : Nat :=
  digits.foldl (fun n c => 16 * n + (Json.hexValue? c).getD 0) 0

def named? (count : Nat) (text : List Char) : Option Char :=
  let digits := text.take count
  let n := hexNumber digits
  if digits.length = count && digits.all (fun c => (Json.hexValue? c).isSome) && isScalar n then
    some (Char.ofNat n)
  else none

def escape? : List Char → Option (Char × Nat)
  | 'b' :: _ => some ('\x08', 1)
  | 't' :: _ => some ('\t', 1)
  | 'n' :: _ => some ('\n', 1)
  | 'f' :: _ => some ('\x0c', 1)
  | 'r' :: _ => some ('\r', 1)
  | '"' :: _ => some ('"', 1)
  | '\\' :: _ => some ('\\', 1)
  | 'u' :: rest => (named? 4 rest).map (·, 5)
  | 'U' :: rest => (named? 8 rest).map (·, 9)
  | _ => none

/-- A basic string after its opening quote; `seen` holds its characters, last first. -/
def basic (seen : List Char) : List Char → Option (List Char × List Char)
  | [] => none
  | '"' :: rest => some (seen.reverse, rest)
  | '\\' :: rest =>
    match escape? rest with
    | some (meant, length) => basic (meant :: seen) (rest.drop length)
    | none => none
  | c :: rest => if isPlain c then basic (c :: seen) rest else none
termination_by text => text.length
decreasing_by all_goals simp; try omega

def literal (seen : List Char) : List Char → Option (List Char × List Char)
  | [] => none
  | '\'' :: rest => some (seen.reverse, rest)
  | c :: rest => if isPlain c then literal (c :: seen) rest else none

def gapLength : List Char → Nat
  | '\r' :: '\n' :: rest => gapLength rest + 2
  | c :: rest => if isBlank c || c = '\n' then gapLength rest + 1 else 0
  | [] => 0

def lineGap? (text : List Char) : Option Nat :=
  if (newline? (skipBlanks text)).isSome then some (gapLength text) else none

def quotesBeforeEnd? (run : Nat) : Option Nat := if run < 3 then none else some (min (run - 3) 2)

/-- A string of several lines after its opening; `quote` closes it, `escapes` if it has escapes. -/
def block (quote : Char) (escapes : Bool) (seen : List Char) :
    List Char → Option (List Char × List Char)
  | [] => none
  | c :: rest =>
    if c = quote then
      let more := (rest.takeWhile (· = quote)).length
      match quotesBeforeEnd? (more + 1) with
      | some kept => some (seen.reverse ++ List.replicate kept quote, rest.drop (kept + 2))
      | none => block quote escapes (List.replicate (more + 1) quote ++ seen) (rest.drop more)
    else if escapes && c = '\\' then
      match lineGap? rest with
      | some length => block quote escapes seen (rest.drop length)
      | none =>
        match escape? rest with
        | some (meant, length) => block quote escapes (meant :: seen) (rest.drop length)
        | none => none
    else if c = '\n' then block quote escapes (c :: seen) rest
    else if c = '\r' && rest.head? = some '\n' then block quote escapes ('\n' :: seen) (rest.drop 1)
    else if isPlain c then block quote escapes (c :: seen) rest
    else none
termination_by text => text.length
decreasing_by all_goals simp; try omega

def skipFirstBreak (text : List Char) : List Char := (newline? text).getD text

def lineString? : List Char → Option (List Char × List Char)
  | '"' :: rest => basic [] rest
  | '\'' :: rest => literal [] rest
  | _ => none

def string? : List Char → Option (List Char × List Char)
  | '"' :: '"' :: '"' :: rest => block '"' true [] (skipFirstBreak rest)
  | '\'' :: '\'' :: '\'' :: rest => block '\'' false [] (skipFirstBreak rest)
  | text => lineString? text

end Inquiry.Toml
