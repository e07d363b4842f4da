import Inquiry.Text.Table

/-! Character classes over all of Unicode; ASCII is answered without a table. -/
namespace Inquiry.Text

def within (ranges : List (Nat × Nat)) (c : Char) : Bool :=
  ranges.any fun (first, last) => first ≤ c.toNat && c.toNat ≤ last

def onRun (runs : List (Nat × Nat × Nat)) (c : Char) : Bool :=
  runs.any fun (first, last, step) =>
    first ≤ c.toNat && c.toNat ≤ last && (c.toNat - first) % step == 0

def isAscii (c : Char) : Bool := c.toNat < 0x80

def isAlphabetic (c : Char) : Bool :=
  if isAscii c then c.isAlpha else within Table.alphabetic c

def isNumber (c : Char) : Bool :=
  if isAscii c then c.isDigit else within Table.number c

def isAlphanumeric (c : Char) : Bool := isAlphabetic c || isNumber c

/-- Letters, marks, decimal digits, connecting punctuation and the two joining controls. -/
def isWordChar (c : Char) : Bool :=
  if isAscii c then c.isAlphanum || c == '_'
  else within Table.alphabetic c || within Table.mark c || within Table.decimalDigit c ||
    within Table.connector c || c == '\u200c' || c == '\u200d'

def isWhitespace (c : Char) : Bool :=
  if isAscii c then c == ' ' || (0x09 ≤ c.toNat && c.toNat ≤ 0x0d) else within Table.whiteSpace c

def isUppercase (c : Char) : Bool :=
  if isAscii c then c.isUpper else onRun Table.uppercase c

def isLowercase (c : Char) : Bool :=
  if isAscii c then c.isLower else onRun Table.lowercase c

def isCased (c : Char) : Bool :=
  if isAscii c then c.isAlpha else within Table.cased c

def isCaseIgnorable (c : Char) : Bool :=
  if isAscii c then c == '\'' || c == '.' || c == ':' || c == '^' || c == '\x60'
  else within Table.caseIgnorable c

end Inquiry.Text
