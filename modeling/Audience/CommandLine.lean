import Audience.CommandLine.Arguments
import Audience.Customer.Plain
import Audience.Population
import Audience.Schema.Source
import Audience.Segment.Loading
import Audience.Settings.Source

/-!
# The command line

The program lists the fields of a schema, checks a stored segment against it, or counts the
customers of a file who are in a segment.  Its output is a JSON document.

**Order.**  Settings come first, and if they cannot be used the standard ones are; then the
schema, the segment and the customers.  The first of them that cannot be read ends the run.

**Schema.**  The option `--schema` or else the variable of the same meaning replaces the
path of the settings.
-/

namespace Audience

open Json (Document)

namespace CommandLine

universe u

/-- The name and version of the program. -/
def versionText : String := "segment-preview 0.1.0\n"

/-- How the program is called. -/
def helpText : String :=
  "Usage: segment-preview [--config FILE] [--schema FILE] COMMAND\n\n" ++
  "Commands:\n" ++
  "  fields\n" ++
  "  validate --segment FILE\n" ++
  "  count --segment FILE --customers FILE [--chunk-size N] [--ids]\n"

/-- The variable that names a schema. -/
def schemaVariable : String := "CAMPAIGN_EXPRESS__SEGMENTATION__SCHEMA_PATH"

/-- Why a run failed. -/
inductive Failure
  | cause (e : Error)
  | mismatched (count : Nat)
deriving DecidableEq

/-- The wording of a failure. -/
def Failure.message : Failure → String
  | cause e => e.message
  | mismatched count =>
      "Invalid input: " ++ String.ofList (Text.decimal count) ++
        " condition(s) do not match the field schema"

/-- The end of a run: what it wrote, and how it ended. -/
structure Outcome where
  output : String
  exit : Nat
  failure : Option Failure
deriving DecidableEq

namespace Outcome

/-- A run that wrote a text. -/
def wrote (output : String) : Outcome := ⟨output, 0, none⟩

/-- A run that could not be started. -/
def usage : Outcome := ⟨"", 2, none⟩

/-- A run that failed before it wrote anything. -/
def failed (e : Error) : Outcome := ⟨"", 1, some (.cause e)⟩

/-- What is written to standard error. -/
def errorText (o : Outcome) : String :=
  match o.failure with
  | some f => "Error: " ++ f.message ++ "\n"
  | none => if o.exit = 2 then helpText else ""

end Outcome

/-- A document on lines of its own. -/
def printed (d : Document) : String := d.prettyText ++ "\n"

/-- The listing of a field. -/
def fieldListing (f : Field) : Document :=
  .record [("id", .string f.id), ("displayName", .string f.displayName),
    ("operators", .array (f.operators.map fun op => .string op.id))]

/-- The listing of the fields of a schema. -/
def listing (schema : Schema) : Document := .array (schema.fields.map fieldListing)

/-- The document of mismatches. -/
def mismatchesDocument (l : Loaded) : Document := .array (l.mismatches.map Mismatch.document)

/-- The report of a count; identifiers are listed on demand. -/
def countReport (p : Population) (l : Loaded) (skipped : Nat) (ids : Bool) : Document :=
  .record (
    [("evaluated", .natural p.evaluated), ("matchCount", .natural p.matchCount)] ++
    (if ids then [("matchingIds", .array (p.matchingIds.map Document.string))] else []) ++
    [("mismatches", mismatchesDocument l), ("skippedAttributes", .natural skipped)])

/-- The end of a check. -/
def checked (l : Loaded) : Outcome :=
  if l.isClean then .wrote (printed (mismatchesDocument l))
  else ⟨printed (mismatchesDocument l), 1, some (.mismatched l.mismatches.length)⟩

/-- The end of a count. -/
def counted (schema : Schema) (l : Loaded) (customers : List PlainCustomer) (size : Nat)
    (ids : Bool) : Outcome :=
  let (customers, skipped) := PlainCustomer.coerceAll schema customers
  .wrote (printed (countReport (Population.ofChunks l.segment customers size) l skipped ids))

variable {m : Type → Type u} [Monad m]

/-- Reads a file and what it holds. -/
def readWith {α : Type} (readFile : String → m (Except FileFault String))
    (parse : String → Except Error α) (path : String) : m (Except Error α) := do
  match ← readFile path with
  | .ok text => return parse text
  | .error fault => return .error (.inaccessible fault)

/-- Loads the segment of a file. -/
def segmentAt (readFile : String → m (Except FileFault String)) (schema : Schema)
    (ids : IdSource) (path : String) : m (Except Error Loaded) :=
  readWith readFile (fun text => (Segment.ofText schema text ids).map Prod.fst) path

/-- Runs a command under settings and a schema. -/
def perform (readFile : String → m (Except FileFault String)) (ids : IdSource)
    (settings : Settings) (schema : Schema) : Command → m Outcome
  | .fields => pure (.wrote (printed (listing schema)))
  | .validate segment => do
      match ← segmentAt readFile schema ids segment with
      | .ok l => return checked l
      | .error e => return .failed e
  | .count segment customers chunkSize listIds => do
      match ← segmentAt readFile schema ids segment with
      | .error e => return .failed e
      | .ok l =>
          match ← readWith readFile PlainCustomer.parseAll customers with
          | .error e => return .failed e
          | .ok found =>
              return counted schema l found (chunkSize.getD settings.previewChunkSize) listIds

/-- The value of a variable. -/
def valueOf? (name : String) (bindings : List (String × String)) : Option String :=
  (bindings.find? (·.1 == name)).map Prod.snd

/-- Runs an invocation. -/
def invoke (readFile : String → m (Except FileFault String)) (bindings : List (String × String))
    (ids : IdSource) (i : Invocation) : m Outcome := do
  let settings := match ← Settings.load readFile i.config bindings with
    | .ok settings => settings
    | .error _ => Settings.standard
  let path := (i.schema.or (valueOf? schemaVariable bindings)).or settings.schemaPath
  match ← Schema.fromSource readFile path with
  | .ok schema => perform readFile ids settings schema i.command
  | .error e => return .failed e

/-- Runs the program. -/
def run (readFile : String → m (Except FileFault String)) (bindings : List (String × String))
    (ids : IdSource) (args : List String) : m Outcome :=
  match Arguments.read args with
  | .invoke i => invoke readFile bindings ids i
  | .version => pure (.wrote versionText)
  | .help => pure (.wrote helpText)
  | .usage => pure .usage

end CommandLine
end Audience
