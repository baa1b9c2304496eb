/-!
# Files

Why a file cannot be read, and a directory tree as a value, with the rules by which a path leads
through it.
-/

namespace TableShell

inductive FileFault where
  | missing
  | notADirectory
  | isDirectory
  | notUtf8
  | described (text : String)
  deriving DecidableEq, Repr

def FileFault.message : FileFault → String
  | .missing => "No such file or directory (os error 2)"
  | .notADirectory => "Not a directory (os error 20)"
  | .isDirectory => "Is a directory (os error 21)"
  | .notUtf8 => "stream did not contain valid UTF-8"
  | .described text => text

/-- The files below a directory, each with the names on the way to it. -/
structure FileTree where
  files : List (List String × List UInt8)

namespace FileTree

def components (path : String) : List String :=
  (path.toList.splitOn '/').map String.ofList

def ofPaths (files : List (String × List UInt8)) : FileTree :=
  ⟨files.map fun (path, content) => (components path, content)⟩

def file? (t : FileTree) (names : List String) : Option (List UInt8) := t.files.lookup names

def isDirectory (t : FileTree) (names : List String) : Bool :=
  names = [] || t.files.any fun file => names.isPrefixOf file.1 && names != file.1

/-- Where a path leads: above the tree, of which nothing else is known, or to a directory of it. -/
inductive Place where
  | above
  | directory (names : List String)
  | file (content : List UInt8)

def enter (t : FileTree) (name : String) : Place → Except FileFault Place
  | .file _ => .error .notADirectory
  | .above => if name = "" ∨ name = "." ∨ name = ".." then .ok .above else .error .missing
  | .directory names =>
    if name = "" ∨ name = "." then .ok (.directory names)
    else if name = ".." then .ok (if names = [] then .above else .directory names.dropLast)
    else
      match t.file? (names ++ [name]) with
      | some content => .ok (.file content)
      | none =>
        if t.isDirectory (names ++ [name]) then .ok (.directory (names ++ [name]))
        else .error .missing

/-- Where a path starts: absolute ones start above the tree. -/
def start (path : String) : Place :=
  if path.toList.head? = some '/' then .above else .directory []

def read (t : FileTree) (path : String) : Except FileFault (List UInt8) :=
  if path = "" then .error .missing
  else
    match (components path).foldlM (fun place name => t.enter name place) (start path) with
    | .ok (.file content) => .ok content
    | .ok _ => .error .isDirectory
    | .error fault => .error fault

end FileTree

end TableShell
