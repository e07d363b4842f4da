import Inquiry.Json.Writing
import Inquiry.Text.Cut

/-!
Relaxed object notation made strict: bare keys and single-quoted strings get double quotes, a
regular expression between slashes becomes an object, a comma before a closing bracket goes. One
pass over the text, in which the last significant character tells keys, expressions and other
slashes apart.
-/
namespace Inquiry.Relaxed

inductive Mode where
  | plain
  | double
  | doubleEscape
  | single
  | singleEscape
  /-- In a regular expression; characters nearest first, as in all that follows. -/
  | pattern (seen : List Char)
  | patternEscape (seen : List Char)
  | flags (pattern seen : List Char)
  | name (seen : List Char)
  | afterName (name gap : List Char)

structure Pass where
  mode : Mode
  /-- The last character that was neither blank nor inside a string. -/
  last : Option Char
  /-- The strict text so far, nearest first. -/
  out : List Char

def isNameStart (c : Char) : Bool := Text.isAlphabetic c || c == '_' || c == '$'

def isNamePart (c : Char) : Bool := Text.isAlphanumeric c || c == '_' || c == '$' || c == '.'

def startsKey (last : Option Char) : Bool := last == some '\x7b' || last == some ','

def startsPattern (last : Option Char) : Bool :=
  last == some ':' || last == some ',' || last == some '[' || last == some '('

def dropComma (out : List Char) : List Char :=
  match out.dropWhile Text.isWhitespace with
  | ',' :: rest => rest
  | _ => out

def patternObject (pattern flags : List Char) : List Char :=
  "\x7b\"$regularExpression\": \x7b\"pattern\": ".toList ++ Json.quoted pattern
    ++ ", \"options\": \"".toList ++ flags ++ "\"\x7d\x7d".toList

def withPattern (pattern flags out : List Char) : List Char :=
  (patternObject pattern.reverse flags.reverse).reverse ++ out

def withName (isKey : Bool) (name gap out : List Char) : List Char :=
  if isKey then gap ++ '"' :: name ++ '"' :: out else gap ++ name ++ out

def plainStep (last : Option Char) (out : List Char) (c : Char) : Pass :=
  if c == '"' then ⟨.double, last, '"' :: out⟩
  else if c == '\'' then ⟨.single, last, '"' :: out⟩
  else if c == '/' && startsPattern last then ⟨.pattern [], last, out⟩
  else if isNameStart c && startsKey last then ⟨.name [c], last, out⟩
  else if c == '\x7d' || c == ']' then ⟨.plain, some c, c :: dropComma out⟩
  else ⟨.plain, if Text.isWhitespace c then last else some c, c :: out⟩

def step (pass : Pass) (c : Char) : Pass :=
  let out := pass.out
  match pass.mode with
  | .plain => plainStep pass.last out c
  | .double =>
    if c == '"' then ⟨.plain, some '"', '"' :: out⟩
    else ⟨if c == '\\' then .doubleEscape else .double, pass.last, c :: out⟩
  | .doubleEscape => ⟨.double, pass.last, c :: out⟩
  | .single =>
    if c == '\'' then ⟨.plain, some '"', '"' :: out⟩
    else if c == '\\' then ⟨.singleEscape, pass.last, out⟩
    else if c == '"' then ⟨.single, pass.last, '"' :: '\\' :: out⟩
    else ⟨.single, pass.last, c :: out⟩
  | .singleEscape =>
    ⟨.single, pass.last, if c == '\'' then '\'' :: out else c :: '\\' :: out⟩
  | .pattern seen =>
    if c == '/' then ⟨.flags seen [], pass.last, out⟩
    else if c == '\\' then ⟨.patternEscape seen, pass.last, out⟩
    else ⟨.pattern (c :: seen), pass.last, out⟩
  | .patternEscape seen => ⟨.pattern (c :: '\\' :: seen), pass.last, out⟩
  | .flags pattern seen =>
    if c.isAlpha then ⟨.flags pattern (c :: seen), pass.last, out⟩
    else plainStep (some '\x7d') (withPattern pattern seen out) c
  | .name seen =>
    if isNamePart c then ⟨.name (c :: seen), pass.last, out⟩
    else if Text.isWhitespace c then ⟨.afterName seen [c], pass.last, out⟩
    else plainStep seen.head? (withName (c == ':') seen [] out) c
  | .afterName name gap =>
    if Text.isWhitespace c then ⟨.afterName name (c :: gap), pass.last, out⟩
    else plainStep name.head? (withName (c == ':') name gap out) c

def Pass.finish (pass : Pass) : List Char :=
  match pass.mode with
  | .plain | .double | .doubleEscape => pass.out
  | .single => '"' :: pass.out
  | .singleEscape => '"' :: '\\' :: pass.out
  | .pattern seen => withPattern seen [] pass.out
  | .patternEscape seen => withPattern ('\\' :: seen) [] pass.out
  | .flags pattern seen => withPattern pattern seen pass.out
  | .name seen => withName false seen [] pass.out
  | .afterName name gap => withName false name gap pass.out

def strict (text : List Char) : List Char :=
  (text.foldl step ⟨.plain, none, []⟩).finish.reverse

end Inquiry.Relaxed
