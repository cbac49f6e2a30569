/-!
# Settings

The four settings of the program and their values when nothing else is said.
-/

namespace Audience

/-- What can be set. -/
structure Settings where
  nodeId : String
  schemaPath : Option String
  previewChunkSize : Nat
  historyDepth : Nat
deriving DecidableEq

namespace Settings

/-- The settings when nothing else is said. -/
def standard : Settings where
  nodeId := "node-01"
  schemaPath := none
  previewChunkSize := 4096
  historyDepth := 100

instance : Inhabited Settings := ⟨standard⟩

end Settings
end Audience
