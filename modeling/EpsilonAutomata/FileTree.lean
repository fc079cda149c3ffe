import EpsilonAutomata.Schema.Basic

/-!
# Trees of files

What reading a path brings, for a given tree of directories and files and the directory a program
works in. A path is followed name by name: an empty name and `.` stay, `..` goes up, and every name
but the last must be a directory. Names have at most 255 bytes and paths fewer than 4096.
-/

namespace EpsilonAutomata

open Schema (FileFault)

/-- A directory or a file. -/
inductive FileTree where
  | file (bytes : ByteArray)
  | directory (entries : List (String × FileTree))

namespace FileTree

/-- The most bytes a name may have. -/
def nameLimit : Nat := 255

/-- The most bytes a path may have. -/
def pathLimit : Nat := 4095

/-- Follows names from the node `here`, whose enclosing directories are `around`, the nearest
    first. -/
def follow (around : List FileTree) (here : FileTree) :
    List String → Except FileFault FileTree
  | [] => .ok here
  | name :: rest =>
    match here with
    | file _ => .error .notDirectory
    | directory entries =>
      if name = "" || name = "." then follow around here rest
      else if name = ".." then
        match around with
        | [] => follow [] here rest
        | parent :: around => follow around parent rest
      else if nameLimit < name.utf8ByteSize then .error .nameTooLong
      else
        match entries.lookup name with
        | some next => follow (here :: around) next rest
        | none => .error .notFound

/-- The names to follow from the root for a path, which is meant from the directory `here` unless it
    begins with a slash. -/
def names (here path : String) : List String :=
  if path.startsWith "/" then path.splitOn "/" else here.splitOn "/" ++ path.splitOn "/"

/-- Reads the file at a path that is meant from the directory `here`. -/
def read (root : FileTree) (here path : String) : Except FileFault ByteArray :=
  if path.contains '\x00' then .error .nulInPath
  else if path.isEmpty then .error .notFound
  else if pathLimit < path.utf8ByteSize then .error .nameTooLong
  else
    match follow [] root (names here path) with
    | .ok (file bytes) => .ok bytes
    | .ok (directory _) => .error .isDirectory
    | .error fault => .error fault

end FileTree

end EpsilonAutomata
