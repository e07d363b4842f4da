import Inquiry.Decimal.Digits
import Inquiry.Text.Cut

/-!
Addresses of database servers: a scheme, hosts between commas, each with an optional number of the
service on it, and perhaps a database and options after a slash. An address names its hosts itself;
none is looked up.
-/
namespace Inquiry.Address

def maxServiceNumber : Nat := 65535

def isServiceNumber (text : List Char) : Bool :=
  match Decimal.plusNatOf? text with
  | some n => 1 ≤ n && n ≤ maxServiceNumber
  | none => false

def isSocket (host : List Char) : Bool := Text.startsWith ".sock".toList.reverse host.reverse

def isHost (text : List Char) : Bool :=
  isSocket text ||
    match text.splitOn ':' with
    | [name] => !name.isEmpty
    | [name, number] => !name.isEmpty && isServiceNumber number
    | _ => false

def areHosts (text : List Char) : Bool :=
  (((text.splitOn '@').getLast?.getD []).splitOn ',').all isHost

def isOption (text : List Char) : Bool :=
  match text.splitOn '=' with
  | name :: _ :: _ => !name.isEmpty
  | _ => false

def areOptions (text : List Char) : Bool :=
  match Text.splitAt? ['?'] text with
  | none | some (_, []) => true
  | some (_, options) => (options.splitOn '&').all isOption

def hasHosts (text : List Char) : Bool :=
  match Text.splitAt? ['/'] text with
  | some (hosts, rest) => areHosts hosts && areOptions rest
  | none => !text.contains '?' && areHosts text

def isValid (uri : String) : Bool :=
  match Text.splitAt? "://".toList uri.toList with
  | some (scheme, rest) => scheme = "mongodb".toList && hasHosts rest
  | none => false

end Inquiry.Address
