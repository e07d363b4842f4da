/-! Paths as written: parts between slashes, absolute when the first character is a slash. -/
namespace Inquiry.Path

def isAbsolute (path : String) : Bool := path.toList.head? = some '/'

def endsInSlash (path : String) : Bool := path.toList.getLast? = some '/'

/-- `part` under `base`; an absolute `part` stands alone. -/
def join (base part : String) : String :=
  if isAbsolute part then part
  else if base = "" || endsInSlash base then base ++ part
  else base ++ "/" ++ part

def parts (path : String) : List String :=
  let named := ((path.toList.splitOn '/').map String.ofList).filter fun part =>
    part ≠ "" && part ≠ "."
  if isAbsolute path then "/" :: named else named

def expandHome (home : Option String) (path : String) : String :=
  match home, path.toList with
  | some home, '~' :: '/' :: rest => join home (String.ofList rest)
  | some home, ['~'] => home
  | _, _ => path

end Inquiry.Path
