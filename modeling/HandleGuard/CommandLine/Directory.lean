import HandleGuard.Text.Numeral

/-!
# Files of a command

What a command may find when it reads a file, and directories as values, so that a command can be
run without a disk.
-/

namespace HandleGuard.CommandLine

/-- Why a file cannot be read: what the system says, and its number for that. -/
structure ReadError where
  text : String
  code : Nat
deriving DecidableEq, Repr

namespace ReadError

/-- There is nothing of that name. -/
def notFound : ReadError := ⟨"No such file or directory", 2⟩

/-- The file may not be read. -/
def permissionDenied : ReadError := ⟨"Permission denied", 13⟩

/-- Something on the way is a file. -/
def notDirectory : ReadError := ⟨"Not a directory", 20⟩

/-- The path leads to a directory. -/
def isDirectory : ReadError := ⟨"Is a directory", 21⟩

/-- The path, or a name on the way, is too long. -/
def nameTooLong : ReadError := ⟨"File name too long", 36⟩

/-- The error in words. -/
def message (e : ReadError) : String := e.text ++ " (os error " ++ Numeral.decimal e.code ++ ")"

end ReadError

/-- A working directory with files in it, by name. -/
structure Directory where
  files : List (String × ByteArray)

/-- Where a path has led so far. -/
inductive Place where
  /-- The working directory. -/
  | here
  /-- Some other directory, of whose files nothing is known. -/
  | elsewhere
deriving DecidableEq, Repr

namespace Directory

/-- No name may have more bytes. -/
def nameLimit : Nat := 255

/-- No path may have more bytes. -/
def pathLimit : Nat := 4095

/-- The file of a name at a place. -/
def find? (d : Directory) (name : String) : Place → Option ByteArray
  | .here => d.files.lookup name
  | .elsewhere => none

/-- What lies at the end of `names`, walked from a place. An empty name and a single dot stay there,
and two dots lead to the directory around it; only a directory can be followed by a name. -/
def walk (d : Directory) (place : Place) : List String → Except ReadError ByteArray
  | [] => .error .isDirectory
  | "" :: names | "." :: names => d.walk place names
  | ".." :: names => d.walk .elsewhere names
  | name :: names =>
    if nameLimit < name.utf8ByteSize then .error .nameTooLong
    else
      match d.find? name place, names with
      | none, _ => .error .notFound
      | some b, [] => .ok b
      | some _, _ => .error .notDirectory

/-- Reads the file of a path. -/
def read (d : Directory) (path : String) : Except ReadError ByteArray :=
  if pathLimit < path.utf8ByteSize then .error .nameTooLong
  else if path.isEmpty then .error .notFound
  else d.walk (if path.startsWith "/" then .elsewhere else .here) (path.splitOn "/")

end Directory

end HandleGuard.CommandLine
