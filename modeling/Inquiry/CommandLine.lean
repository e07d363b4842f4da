import Inquiry.Logging

/-!
Arguments of the program. Options may stand before, between and after the other words; everything
after a lone `--` is a word.
-/
namespace Inquiry.CommandLine

def usage : String :=
  "Usage: docquery [OPTIONS] [COMMAND]\n\nCommands:\n  ask <QUESTION...>          Answer one question and exit\n  schema                     Print the indexed collections and exit\n  reindex                    Rebuild the schema embeddings cache and exit\n  (none)                     Start the interactive prompt\n\nOptions:\n  -h, --help                 Print help\n  -f, --config <PATH>        Path to configuration file (default: config/default.toml)\n  -v, -vv, -vvv, -vvvv       Increase logging verbosity"

inductive Command where
  | converse
  | ask (question : String)
  | schema
  | reindex
  | help
deriving DecidableEq

structure Arguments where
  command : Command
  settingsPath : Option String
  /-- Chosen by verbosity flags. -/
  level : Option Level
deriving DecidableEq

inductive Fault where
  | missingPath
  | unknownOption (option : String)
  | missingQuestion
  | unknownCommand (command : String)
deriving DecidableEq

def Fault.message : Fault → String
  | .missingPath => "-f/--config requires a path argument"
  | .unknownOption option => "unknown option: " ++ option
  | .missingQuestion => "ask requires a question"
  | .unknownCommand command => "unknown command: " ++ command

structure Reading where
  verbosity : Nat := 0
  settingsPath : Option String := none
  words : List String := []

def maxVerbosity : Nat := 255

def Reading.louder (reading : Reading) (steps : Nat) : Reading :=
  { reading with verbosity := min maxVerbosity (reading.verbosity + steps) }

def verbosityGroup? (argument : String) : Option Nat :=
  match argument.toList with
  | '-' :: letter :: letters =>
    if (letter :: letters).all (· = 'v') then some (letters.length + 1) else none
  | _ => none

def isOption (argument : String) : Bool := argument.toList.head? = some '-'

inductive Outcome where
  | help (settingsPath : Option String)
  | words (reading : Reading)

/-- The steps of one group count modulo 256. -/
def read (reading : Reading) : List String → Except Fault Outcome
  | [] => .ok (.words reading)
  | "--" :: rest => .ok (.words { reading with words := reading.words ++ rest })
  | "-h" :: _ | "--help" :: _ => .ok (.help reading.settingsPath)
  | "-f" :: rest | "--config" :: rest =>
    match rest with
    | [] => .error .missingPath
    | path :: rest => read { reading with settingsPath := some path } rest
  | "--verbose" :: rest => read (reading.louder 1) rest
  | argument :: rest =>
    match verbosityGroup? argument with
    | some steps => read (reading.louder (steps % 256)) rest
    | none =>
      if isOption argument && reading.words.isEmpty then .error (.unknownOption argument)
      else read { reading with words := reading.words ++ [argument] } rest

def command : List String → Except Fault Command
  | [] => .ok .converse
  | "ask" :: [] => .error .missingQuestion
  | "ask" :: words => .ok (.ask (" ".intercalate words))
  | "schema" :: _ => .ok .schema
  | "reindex" :: _ => .ok .reindex
  | word :: _ => .error (.unknownCommand word)

def parse (arguments : List String) : Except Fault Arguments := do
  match ← read {} arguments with
  | .help settingsPath => return ⟨.help, settingsPath, none⟩
  | .words reading =>
    return ⟨← command reading.words, reading.settingsPath, Level.ofVerbosity reading.verbosity⟩

end Inquiry.CommandLine
