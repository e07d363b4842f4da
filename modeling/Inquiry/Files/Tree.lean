import Inquiry.Files.Path
import Inquiry.Text.Utf8

/-!
Files and directories, by the parts of the paths that lead to them. The place where relative paths
start and the root of absolute ones are always directories.
-/
namespace Inquiry

inductive Files.Node where
  | file (content : ByteArray)
  | directory

structure Files where
  nodes : List (List String × Files.Node)

namespace Files

inductive Fault where
  | notFound
  | exists
  | notDirectory
  | isDirectory
  | notText
  | other (detail : String)
deriving DecidableEq

def Fault.message : Fault → String
  | .notFound => "No such file or directory (os error 2)"
  | .exists => "File exists (os error 17)"
  | .notDirectory => "Not a directory (os error 20)"
  | .isDirectory => "Is a directory (os error 21)"
  | .notText => "stream did not contain valid UTF-8"
  | .other detail => detail

def empty : Files := ⟨[]⟩

def node? (files : Files) (place : List String) : Option Node :=
  if place = [] || place = ["/"] then some .directory
  else (files.nodes.find? fun node => node.1 = place).map (·.2)

def put (files : Files) (place : List String) (node : Node) : Files :=
  ⟨(place, node) :: files.nodes.filter fun other => other.1 ≠ place⟩

def step (place : List String) (part : String) : List String :=
  if part = ".." then place.dropLast else place ++ [part]

def descend (files : Files) (place : List String) : List String → Except Fault (List String)
  | [] => .ok place
  | part :: rest =>
    match files.node? (step place part) with
    | some .directory => descend files (step place part) rest
    | some (.file _) => .error .notDirectory
    | none => .error .notFound

def place (files : Files) (path : String) : Except Fault (List String) :=
  if path = "" then .error .notFound
  else match (Path.parts path).getLast? with
    | none => .ok []
    | some last => do return step (← files.descend [] (Path.parts path).dropLast) last

def isThere (files : Files) (path : String) : Bool :=
  match files.place path with
  | .ok place => (files.node? place).isSome
  | .error _ => false

def readBytes (files : Files) (path : String) : Except Fault ByteArray := do
  match files.node? (← files.place path) with
  | none => .error .notFound
  | some .directory => .error .isDirectory
  | some (.file content) =>
    if Path.endsInSlash path then .error .notDirectory else .ok content

def read (files : Files) (path : String) : Except Fault String := do
  match Utf8.decode? (← files.readBytes path) with
  | some text => .ok text
  | none => .error .notText

def writeBytes (files : Files) (path : String) (content : ByteArray) : Except Fault Files := do
  let place ← files.place path
  match files.node? place with
  | some .directory => .error .isDirectory
  | some (.file _) =>
    if Path.endsInSlash path then .error .notDirectory else .ok (files.put place (.file content))
  | none =>
    if Path.endsInSlash path then .error .isDirectory else .ok (files.put place (.file content))

def write (files : Files) (path text : String) : Except Fault Files :=
  files.writeBytes path (Utf8.encode text)

/-- Makes the directories that are missing on the way, up to the first that cannot be made. -/
def making (files : Files) (place : List String) : List String → Files × Except Fault Unit
  | [] => (files, .ok ())
  | part :: rest =>
    match files.node? (step place part) with
    | some .directory => making files (step place part) rest
    | some (.file _) => (files, .error (if rest.isEmpty then .exists else .notDirectory))
    | none => making (files.put (step place part) .directory) (step place part) rest

def makeDirectories (files : Files) (place parts : List String) : Except Fault Files :=
  match files.making place parts with
  | (made, .ok ()) => .ok made
  | (_, .error fault) => .error fault

def makeDirectory (files : Files) (path : String) : Except Fault Files :=
  files.makeDirectories [] (Path.parts path)

def makeParent (files : Files) (path : String) : Except Fault Files :=
  files.makeDirectories [] (Path.parts path).dropLast

/-- What an attempt to make that directory leaves, whether or not it succeeds. -/
def withParent (files : Files) (path : String) : Files :=
  (files.making [] (Path.parts path).dropLast).1

def remove (files : Files) (path : String) : Except Fault Files := do
  let place ← files.place path
  if (files.node? place).isNone then .error .notFound
  else .ok ⟨files.nodes.filter fun node => !place.isPrefixOf node.1⟩

def names (files : Files) : List String :=
  (files.nodes.filterMap fun node =>
    match node.1 with
    | [name] => if name = "/" then none else some name
    | _ => none).mergeSort (· ≤ ·)

end Files
end Inquiry
