import Inquiry.Text.Case
import Inquiry.Text.Cut

/-! Names of fields as titles: `total_sales` and `totalSales` both read `Total Sales`. -/
namespace Inquiry.Answer

def isBreak (c : Char) : Bool := c == '_' || c == ' '

def endsLower (c : Char) : Bool := Text.isLowercase c || c.isDigit

/--
Words of a name, where `word` is the one being read, nearest character first, and `low` tells
that its last character is small or a digit. A capital after such a character starts a word.
-/
def wordsAfter (word : List Char) (low : Bool) : List Char → List (List Char)
  | [] => if word.isEmpty then [] else [word.reverse]
  | c :: rest =>
    if isBreak c then
      if word.isEmpty then wordsAfter [] false rest else word.reverse :: wordsAfter [] false rest
    else if Text.isUppercase c && low && !word.isEmpty then
      word.reverse :: wordsAfter [c] (endsLower c) rest
    else wordsAfter (c :: word) (endsLower c) rest

def nameWords (name : List Char) : List (List Char) := wordsAfter [] false name

def capitalized : List Char → List Char
  | [] => []
  | first :: rest => Text.upperChar first ++ rest

def title (name : List Char) : List Char :=
  Text.joined [' '] ((nameWords name).map capitalized)

def titleText (name : String) : String := String.ofList (title name.toList)

end Inquiry.Answer
