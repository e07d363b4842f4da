import Inquiry.Decimal.Digits

/-! How much is logged: levels, their names, and the flags and filters that choose one. -/
namespace Inquiry

inductive Level where
  | off
  | error
  | warn
  | info
  | debug
  | trace
deriving DecidableEq

namespace Level

def name : Level → String
  | .off => "off"
  | .error => "error"
  | .warn => "warn"
  | .info => "info"
  | .debug => "debug"
  | .trace => "trace"

def all : List Level := [.off, .error, .warn, .info, .debug, .trace]

/-- A level by its name in any case of the letters, or by its place in `all`. -/
def ofText? (text : String) : Option Level :=
  match Decimal.plusNatOf? text.toList with
  | some n => all[n]?
  | none => all.find? fun level => level.name = text.toLower

def ofVerbosity : Nat → Option Level
  | 0 => none
  | 1 => some .warn
  | 2 => some .info
  | 3 => some .debug
  | _ => some .trace

end Level

namespace Logging

inductive Fault where
  | emptyLevel
  | unknownLevel (text : String)
  /-- No filter can be made of the level, nor of the environment where that counts. -/
  | unusableFilter (text : String)
  /-- A filter is in place already. -/
  | alreadySet
  | other (detail : String)

def Fault.message : Fault → String
  | .emptyLevel => "log level must not be empty"
  | .unknownLevel text => "unrecognised log level: '" ++ text ++ "'"
  | .unusableFilter text => "invalid log level '" ++ text ++ "': invalid filter directive"
  | .alreadySet => "failed to set subscriber: a filter has already been set"
  | .other detail => detail

def level (text : String) : Except Fault Level :=
  if text = "" then .error .emptyLevel
  else match Level.ofText? text with
    | some level => .ok level
    | none => .error (.unknownLevel text)

def isDirective (text : List Char) : Bool :=
  match (text.dropWhile (· ≠ '=')).drop 1 with
  | [] => true
  | chosen => (Level.ofText? (String.ofList chosen)).isSome

def isFilter (text : String) : Bool := (text.toList.splitOn ',').all isDirective

def filter (level : String) (preferLevel : Bool) (environment : Option String) :
    Except Fault String :=
  let candidates := if preferLevel then level :: environment.toList else environment.toList ++ [level]
  match candidates.find? isFilter with
  | some chosen => .ok chosen
  | none => .error (.unusableFilter level)

end Logging
end Inquiry
