import Inquiry.Catalog
import Inquiry.Files.Tree
import Inquiry.Text.Cut

/-!
Templates with holes `{{name}}`. Filling goes through a template once; what is filled in is not
looked at again, and a hole without a value stays as it is.
-/
namespace Inquiry.Template

def hole (name : List Char) : List Char := '\x7b' :: '\x7b' :: (name ++ ['\x7d', '\x7d'])

def filling (values : Catalog String) (name : List Char) : List Char :=
  match values.get? (String.ofList name) with
  | some value => value.toList
  | none => hole name

/-- Outside of a hole, or in one that began and goes on with the characters of a name, last first. -/
def fillFrom (values : Catalog String) : Option (List Char) → List Char → List Char
  | none, [] => []
  | none, '\x7b' :: '\x7b' :: rest => fillFrom values (some []) rest
  | none, c :: rest => c :: fillFrom values none rest
  | some name, [] => '\x7b' :: '\x7b' :: name.reverse
  | some name, '\x7d' :: '\x7d' :: rest => filling values name.reverse ++ fillFrom values none rest
  | some name, c :: rest => fillFrom values (some (c :: name)) rest

def fill (values : Catalog String) (template : List Char) : List Char := fillFrom values none template

/-- Layers without their outer blanks, empty ones left out, with an empty line between them. -/
def layered (layers : List String) : List Char :=
  Text.joined ['\n', '\n'] ((layers.map fun layer => Text.trim layer.toList).filter fun layer =>
    !layer.isEmpty)

def build (layers : List String) (values : Catalog String) : String :=
  String.ofList (fill values (layered layers))

def layer (files : Files) (directory file usual : String) : String :=
  match files.read (Path.join directory file) with
  | .ok text => text
  | .error _ => usual

end Inquiry.Template
