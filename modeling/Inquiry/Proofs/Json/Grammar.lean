import Inquiry.Json.Literal
import Inquiry.Text.Property

/-!
How values are written down, in strict JSON and in the notation of the shell. The shell also takes
single quotes, bare keys, regular expressions between slashes and a comma after the last member.
-/
namespace Inquiry.Json

inductive Dialect where
  | strict
  | shell

def IsGap (gap : List Char) : Prop := ∀ c ∈ gap, isBlank c = true

theorem gap_nil : IsGap [] := by simp [IsGap]

theorem gap_space : IsGap [' '] := by simp [IsGap, isBlank]

theorem gap_cons {c : Char} {gap : List Char} (blank : isBlank c = true) (more : IsGap gap) :
    IsGap (c :: gap) := List.forall_mem_cons.2 ⟨blank, more⟩

theorem IsGap.head {c : Char} {gap : List Char} (blank : IsGap (c :: gap)) : isBlank c = true :=
  blank c List.mem_cons_self

theorem IsGap.tail {c : Char} {gap : List Char} (blank : IsGap (c :: gap)) : IsGap gap :=
  fun d member => blank d (List.mem_cons_of_mem _ member)

def IsSign (sign : List Char) : Prop := sign = [] ∨ sign = ['-']

def IsWhole (digits : List Char) : Prop :=
  Decimal.isNumeral digits = true ∧ (digits.length = 1 ∨ digits.head? ≠ some '0')

def IsFraction (text : List Char) : Prop :=
  text = [] ∨ ∃ digits, text = '.' :: digits ∧ Decimal.isNumeral digits = true

def IsExponent (text : List Char) : Prop :=
  text = [] ∨ ∃ mark sign digits, text = mark :: (sign ++ digits) ∧ (mark = 'e' ∨ mark = 'E') ∧
    (sign = [] ∨ sign = ['+'] ∨ sign = ['-']) ∧ Decimal.isNumeral digits = true

def IsNumber (literal : List Char) : Prop :=
  ∃ sign whole fraction exponent, literal = sign ++ whole ++ fraction ++ exponent ∧
    IsSign sign ∧ IsWhole whole ∧ IsFraction fraction ∧ IsExponent exponent

def escapeLetters : List (Char × Char) :=
  [('"', '"'), ('\\', '\\'), ('/', '/'), ('b', '\x08'), ('f', '\x0c'), ('n', '\n'), ('r', '\r'),
   ('t', '\t')]

def IsUnit (digits : List Char) (unit : Nat) : Prop :=
  ∃ a b c d, digits = [a, b, c, d] ∧ ∃ w x y z, hexValue? a = some w ∧ hexValue? b = some x ∧
    hexValue? c = some y ∧ hexValue? d = some z ∧ unit = 16 * (16 * (16 * w + x) + y) + z

inductive Spells (mark : Char) : List Char → List Char → Prop
  | nil : Spells mark [] []
  | plain {c : Char} {text body : List Char} (visible : 0x20 ≤ c.toNat) (inside : c ≠ mark)
      (unescaped : c ≠ '\\') (rest : Spells mark text body) : Spells mark (c :: text) (c :: body)
  | escape {letter c : Char} {text body : List Char} (listed : (letter, c) ∈ escapeLetters)
      (rest : Spells mark text body) : Spells mark (c :: text) ('\\' :: letter :: body)
  | apostrophe {text body : List Char} (single : mark = '\'') (rest : Spells mark text body) :
      Spells mark ('\'' :: text) ('\\' :: '\'' :: body)
  | unit {c : Char} {digits text body : List Char} (meant : IsUnit digits c.toNat)
      (rest : Spells mark text body) : Spells mark (c :: text) ('\\' :: 'u' :: (digits ++ body))
  | pair {c : Char} {high low text body : List Char} (wide : 0x10000 ≤ c.toNat)
      (upper : IsUnit high (0xd800 + (c.toNat - 0x10000) / 0x400))
      (lower : IsUnit low (0xdc00 + (c.toNat - 0x10000) % 0x400)) (rest : Spells mark text body) :
      Spells mark (c :: text) ('\\' :: 'u' :: (high ++ '\\' :: 'u' :: (low ++ body)))

inductive Quoted (dialect : Dialect) (content : String) : List Char → Prop
  | double {body : List Char} (spelt : Spells '"' content.toList body) :
      Quoted dialect content ('"' :: (body ++ ['"']))
  | single {body : List Char} (shell : dialect = .shell) (spelt : Spells '\'' content.toList body) :
      Quoted dialect content ('\'' :: (body ++ ['\'']))

def IsBareKey : List Char → Prop
  | [] => False
  | first :: rest => (Text.isAlphabetic first = true ∨ first = '_' ∨ first = '$') ∧
      ∀ c ∈ rest, Text.isAlphanumeric c = true ∨ c = '_' ∨ c = '$' ∨ c = '.'

inductive Key (dialect : Dialect) (name : String) : List Char → Prop
  | quoted {text : List Char} (quoted : Quoted dialect name text) : Key dialect name text
  | bare (shell : dialect = .shell) (bare : IsBareKey name.toList) : Key dialect name name.toList

/-- The source of a regular expression: no slash without a backslash, none left over at the end. -/
inductive IsPattern : List Char → Prop
  | nil : IsPattern []
  | plain {c : Char} {rest : List Char} (inside : c ≠ '/') (unescaped : c ≠ '\\')
      (more : IsPattern rest) : IsPattern (c :: rest)
  | escaped {c : Char} {rest : List Char} (more : IsPattern rest) : IsPattern ('\\' :: c :: rest)

def ofPattern (pattern flags : List Char) : Json :=
  .object [("$regularExpression", .object
    [("pattern", .text (String.ofList pattern)), ("options", .text (String.ofList flags))])]

inductive Label (dialect : Dialect) (name : String) : List Char → Prop
  | intro {before key gap : List Char} (blankBefore : IsGap before) (blankGap : IsGap gap)
      (named : Key dialect name key) : Label dialect name (before ++ key ++ gap ++ [':'])

def IsTail (dialect : Dialect) (tail : List Char) : Prop :=
  tail = [] ∨ dialect = .shell ∧ ∃ gap, tail = ',' :: gap ∧ IsGap gap

/-- Parts of a text: a value, what can be a member, that with blanks around it, and members in a
row. -/
inductive Phrase where
  | value (value : Json)
  | element (value : Json)
  | member (value : Json)
  | items (items : List Json)
  | entries (entries : List (String × Json))

inductive Prints (dialect : Dialect) : Phrase → List Char → Prop
  | null : Prints dialect (.value .null) "null".toList
  | yes : Prints dialect (.value (.bool true)) "true".toList
  | no : Prints dialect (.value (.bool false)) "false".toList
  | number {literal : List Char} (number : IsNumber literal)
      (inRange : Number.ofLiteral? literal ≠ some .beyond) :
      Prints dialect (.value (.number ((Number.ofLiteral? literal).getD .beyond))) literal
  | text {content : String} {text : List Char} (quoted : Quoted dialect content text) :
      Prints dialect (.value (.text content)) text
  | noItems {gap : List Char} (blank : IsGap gap) :
      Prints dialect (.value (.list [])) ('[' :: (gap ++ [']']))
  | list {items : List Json} {body tail : List Char} (inner : Prints dialect (.items items) body)
      (closed : IsTail dialect tail) :
      Prints dialect (.value (.list items)) ('[' :: (body ++ tail ++ [']']))
  | noEntries {gap : List Char} (blank : IsGap gap) :
      Prints dialect (.value (.object [])) ('\x7b' :: (gap ++ ['\x7d']))
  | object {entries : List (String × Json)} {body tail : List Char}
      (inner : Prints dialect (.entries entries) body) (closed : IsTail dialect tail) :
      Prints dialect (.value (.object entries)) ('\x7b' :: (body ++ tail ++ ['\x7d']))
  | plain {value : Json} {text : List Char} (inner : Prints dialect (.value value) text) :
      Prints dialect (.element value) text
  | pattern {pattern flags : List Char} (shell : dialect = .shell) (source : IsPattern pattern)
      (letters : ∀ c ∈ flags, c.isAlpha = true) :
      Prints dialect (.element (ofPattern pattern flags)) ('/' :: (pattern ++ '/' :: flags))
  | member {value : Json} {before text after : List Char} (blankBefore : IsGap before)
      (blankAfter : IsGap after) (inner : Prints dialect (.element value) text) :
      Prints dialect (.member value) (before ++ text ++ after)
  | lastItem {item : Json} {text : List Char} (inner : Prints dialect (.member item) text) :
      Prints dialect (.items [item]) text
  | nextItem {item : Json} {items : List Json} {text rest : List Char}
      (inner : Prints dialect (.member item) text) (more : Prints dialect (.items items) rest) :
      Prints dialect (.items (item :: items)) (text ++ ',' :: rest)
  | lastEntry {name : String} {value : Json} {label text : List Char}
      (labelled : Label dialect name label) (inner : Prints dialect (.member value) text) :
      Prints dialect (.entries [(name, value)]) (label ++ text)
  | nextEntry {name : String} {value : Json} {entries : List (String × Json)}
      {label text rest : List Char} (labelled : Label dialect name label)
      (inner : Prints dialect (.member value) text) (more : Prints dialect (.entries entries) rest) :
      Prints dialect (.entries ((name, value) :: entries)) (label ++ text ++ ',' :: rest)

def IsText (dialect : Dialect) (value : Json) (text : List Char) : Prop :=
  ∃ before body after, text = before ++ body ++ after ∧ IsGap before ∧ IsGap after ∧
    Prints dialect (.value value) body

end Inquiry.Json
