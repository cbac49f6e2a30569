import Audience.Keyed

/-!
# Files

Why a file cannot be read, and trees of files in memory.

**Paths.**  A path is followed name by name from a folder: a dot stays, two dots go to the
folder around it, and only a folder can be followed further, so a slash after the name of a
file is an error.  The first name that fails decides.
-/

namespace Audience

/-- Why a file cannot be read. -/
inductive FileFault
  | missing
  | denied
  | notFolder
  | isFolder
  | nameTooLong
  | nulInName
  | notText
  | other (reason : String)
deriving DecidableEq

/-- The wording of a fault. -/
def FileFault.message : FileFault → String
  | missing => "No such file or directory (os error 2)"
  | denied => "Permission denied (os error 13)"
  | notFolder => "Not a directory (os error 20)"
  | isFolder => "Is a directory (os error 21)"
  | nameTooLong => "File name too long (os error 36)"
  | nulInName => "file name contained an unexpected NUL byte"
  | notText => "stream did not contain valid UTF-8"
  | other reason => reason

/-- A file with its text, or a folder of named trees. -/
inductive FileTree
  | file (text : String)
  | folder (entries : List (String × FileTree))

namespace FileTree

instance : Inhabited FileTree := ⟨folder []⟩

/-- The number of bytes that the name of a file may have. -/
def longestName : Nat := 255

/-- The number of bytes that a path may have. -/
def longestPath : Nat := 4095

/-- Follows names from a tree; `above` are the folders around it, the nearest first. -/
def follow : List String → (above : List FileTree) → FileTree → Except FileFault FileTree
  | [], _, t => .ok t
  | _ :: _, _, .file _ => .error .notFolder
  | name :: rest, above, .folder entries =>
      if name = "" ∨ name = "." then follow rest above (.folder entries)
      else if name = ".." then
        match above with
        | [] => follow rest [] (.folder entries)
        | up :: above => follow rest above up
      else if longestName < name.utf8ByteSize then .error .nameTooLong
      else
        match Keyed.find? name entries with
        | none => .error .missing
        | some t => follow rest (.folder entries :: above) t

/-- The names of a path. -/
def names (path : String) : List String :=
  (path.toList.splitOn '/').map String.ofList

/-- The text of the file that names lead to. -/
def textAt (root : FileTree) (names : List String) : Except FileFault String :=
  match follow names [] root with
  | .ok (.file text) => .ok text
  | .ok (.folder _) => .error .isFolder
  | .error e => .error e

/-- Reads the file at a path, which starts at the outermost folder if its first character is
a slash and else at the current one. -/
def read (root : FileTree) (current : List String) (path : String) : Except FileFault String :=
  if path.toList.any (·.toNat == 0) then .error .nulInName
  else if path = "" then .error .missing
  else if longestPath < path.utf8ByteSize then .error .nameTooLong
  else textAt root (if path.toList.head? = some '/' then names path else current ++ names path)

end FileTree
end Audience
