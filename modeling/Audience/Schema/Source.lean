import Audience.Schema.Reader

/-!
# Where a schema comes from

A schema is read from the file at a path, or is the standard one if no path is given.  How
files are read is left to the caller.
-/

namespace Audience

universe u

namespace Schema

variable {m : Type → Type u} [Monad m]

/-- The schema at a path, or the standard one.  A file that cannot be read is reported
with the fault that the reader gives. -/
def fromSource (readFile : String → m (Except FileFault String)) :
    Option String → m (Except Error Schema)
  | none => pure (.ok standard)
  | some path => do
      match ← readFile path with
      | .ok text => return parse text
      | .error fault => return .error (.inaccessible fault)

end Schema
end Audience
