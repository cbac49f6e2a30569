import Audience.CommandLine

/-!
# The program

Reads the arguments, the environment and the files, runs the command line on them and writes
what it says.
-/

namespace Audience
namespace Program

/-- The code of a fault that says that a folder was found. -/
def folderCode : UInt32 := 21

/-- Why a file could not be read. -/
def faultOf : IO.Error → FileFault
  | .noFileOrDirectory .. => .missing
  | .permissionDenied .. => .denied
  | .inappropriateType _ code _ => if code = folderCode then .isFolder else .notFolder
  | .invalidArgument .. => .nameTooLong
  | e => .other (toString e)

/-- The text of the bytes of a file. -/
def textOf (bytes : ByteArray) : Except FileFault String :=
  match String.fromUTF8? bytes with
  | some text => .ok text
  | none => .error .notText

/-- Reads a file. -/
def readText (path : String) : IO (Except FileFault String) := do
  if path.toList.any (·.toNat == 0) then return .error .nulInName
  match ← EIO.toBaseIO (IO.FS.readBinFile path) with
  | .ok bytes => return textOf bytes
  | .error e => return .error (faultOf e)

/-- The variables of a list of entries, each with its name up to the first equals sign. -/
def bindings (entries : String) : List (String × String) :=
  (entries.splitOn "\x00").filterMap fun entry =>
    match entry.splitOn "=" with
    | name :: value :: more => some (name, String.intercalate "=" (value :: more))
    | _ => none

/-- The environment of the program. -/
def environment : IO (List (String × String)) := do
  match ← readText "/proc/self/environ" with
  | .ok entries => return bindings entries
  | .error _ => return []

/-- A random number of 128 bits. -/
def randomSeed : IO Nat := do
  let bytes ← IO.getRandomBytes 16
  return bytes.toList.foldl (fun n b => 256 * n + b.toNat) 0

end Program
end Audience

open Audience in
/-- Runs the command line. -/
def main (args : List String) : IO UInt32 := do
  let ids := IdSource.seeded (← Program.randomSeed)
  let outcome ← CommandLine.run Program.readText (← Program.environment) ids args
  (← IO.getStdout).putStr outcome.output
  (← IO.getStderr).putStr outcome.errorText
  return outcome.exit.toUInt32
