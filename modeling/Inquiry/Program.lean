import Inquiry.Agent.Conversation
import Inquiry.CommandLine
import Inquiry.Settings.EnvironmentFile

/-!
One run of the program: from its arguments, its environment and its files to what it writes. A
failure is written to the error output and makes the run unsuccessful.
-/
namespace Inquiry.Program

structure World where
  arguments : List String
  environment : Settings.Environment
  home : Option String
  files : Files
  input : ByteArray
  now : Int
  outside : Session.Outside

structure Outcome where
  output : String := ""
  failure : Option Failure := none
  executed : List Command := []
  files : Files

def Outcome.exitCode (outcome : Outcome) : Nat := if outcome.failure.isSome then 1 else 0

def Outcome.errorText (outcome : Outcome) : String :=
  match outcome.failure with
  | some failure => "error: " ++ failure.message ++ "\n"
  | none => ""

def rule : String := String.ofList (List.replicate 33 '─') ++ "\n"

def banner : String := rule ++ " docquery  (exit, quit or Ctrl-C to leave)\n" ++ rule

def variablesFile : String := ".env"

def environment (world : World) : Settings.Environment :=
  match world.files.read variablesFile with
  | .ok text => EnvironmentFile.extend world.environment text
  | .error _ => world.environment

def reindexed (count : Nat) : String :=
  "✓ Reindexed " ++ Decimal.natText count ++ " collection" ++ (if count = 1 then "" else "s") ++ "\n"

def perform (world : World) (session : Session) : CommandLine.Command → Outcome
  | .help => { executed := session.executed, files := session.files }
  | .ask question =>
    let (reply, session) := session.ask world.now question
    { output := reply.text ++ "\n", executed := session.executed, files := session.files }
  | .schema =>
    { output := session.agent.summary ++ "\n", executed := session.executed, files := session.files }
  | .reindex =>
    match session.reindex world.now with
    | (.ok count, session) =>
      { output := reindexed count, executed := session.executed, files := session.files }
    | (.error failure, session) =>
      { failure := some failure, executed := session.executed, files := session.files }
  | .converse =>
    let (output, session) :=
      Conversation.run session world.now (Conversation.inputs world.input)
    { output := banner ++ output, executed := session.executed, files := session.files }

def workPaths (settings : Settings) : List String :=
  [settings.cachePath, Path.join settings.promptDirectory Prompt.systemFile,
   Path.join settings.promptDirectory Prompt.userFile]

def settings (world : World) (arguments : CommandLine.Arguments) : Except Failure Settings := do
  let environment := environment world
  let settings ←
    (Settings.load ⟨world.files, environment, world.home⟩ arguments.settingsPath).mapError .settings
  let level := (arguments.level.map Level.name).getD settings.logLevel
  let _ ← (Logging.filter level arguments.level.isSome
    (Settings.valueOf? environment "RUST_LOG")).mapError .logging
  return settings

def paths (world : World) : List String :=
  match CommandLine.parse world.arguments with
  | .error _ => [variablesFile]
  | .ok arguments =>
    let further := match settings world arguments with
      | .error _ => []
      | .ok settings => workPaths settings
    variablesFile :: Settings.pathOf (environment world) arguments.settingsPath :: further

def started (world : World) (arguments : CommandLine.Arguments) : Outcome :=
  match settings world arguments with
  | .error failure => { failure := some failure, files := world.files }
  | .ok settings =>
    let step := Session.start world.outside settings ⟨world.files, world.now⟩
    match step.outcome with
    | .error failure =>
      { failure := some failure, executed := step.commands, files := step.files }
    | .ok session => perform world session arguments.command

def run (world : World) : Outcome :=
  match CommandLine.parse world.arguments with
  | .error fault =>
    { failure := some (.settings (.arguments fault.message)), files := world.files }
  | .ok arguments =>
    match arguments.command with
    | .help => { output := CommandLine.usage ++ "\n", files := world.files }
    | _ => started world arguments

end Inquiry.Program
