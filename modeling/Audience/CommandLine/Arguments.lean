import Audience.Number.Entered

/-!
# Arguments of the command line

The program has three commands, each with options of its own, and two options that stand
before the command.  An option is followed by its value, or joined to it by an equals sign.

**Refusals.**  Unknown options, options given twice, values that look like options, and
missing commands or values are usage errors.  All of them have the same effect, so a usage
error has no cause.
-/

namespace Audience

/-- What to do. -/
inductive Command
  | fields
  | validate (segment : String)
  | count (segment customers : String) (chunkSize : Option Nat) (ids : Bool)
deriving DecidableEq

/-- A command with the options before it. -/
structure Invocation where
  config : Option String
  schema : Option String
  command : Command
deriving DecidableEq

/-- What the arguments ask for. -/
inductive Arguments
  | invoke (invocation : Invocation)
  | version
  | help
  | usage
deriving DecidableEq

namespace Arguments

/-- A value that stands alone: it must not look like an option. -/
def isValue (s : String) : Bool := s == "-" || s.toList.head? != some '-'

/-- The value of an option, if the first arguments are that option; none of the inner kind is
a missing value. -/
def takeOption (name : String) : List String → Option (Option (String × List String))
  | [] => none
  | arg :: rest =>
      if arg = name then
        match rest with
        | value :: rest => some (if isValue value then some (value, rest) else none)
        | [] => some none
      else if (name ++ "=").toList.isPrefixOf arg.toList then
        some (some (String.ofList (arg.toList.drop (name.length + 1)), rest))
      else none

/-- The options of a command that have been given. -/
structure Given where
  segment : Option String
  customers : Option String
  chunkSize : Option Nat
  ids : Bool

/-- No option. -/
def Given.none : Given := ⟨.none, .none, .none, false⟩

/-- Which options a command has. -/
structure Accepted where
  segment : Bool
  customers : Bool

/-- A path: it must not be empty. -/
def path? (value : String) : Option String := if value = "" then none else some value

/-- A natural number of 64 bits. -/
def natural? (value : String) : Option Nat := Entered.readUnsigned64 value.toList

/-- Fills an option that has not been given before. -/
def fill {α : Type} (before : Option α) (value : Option α) : Option α :=
  match before with
  | some _ => none
  | none => value

/-- Reads the options of a command; `fuel` bounds the number of arguments. -/
def readGiven (accepted : Accepted) : Nat → Given → List String → Option Given
  | _, given, [] => some given
  | 0, _, _ :: _ => none
  | fuel + 1, given, arg :: rest =>
      match takeOption "--segment" (arg :: rest), takeOption "--customers" (arg :: rest),
          takeOption "--chunk-size" (arg :: rest) with
      | some found, _, _ => do
          let (value, rest) ← found
          let segment ← fill given.segment (path? value)
          if accepted.segment then
            readGiven accepted fuel { given with segment := some segment } rest
          else none
      | _, some found, _ => do
          let (value, rest) ← found
          let customers ← fill given.customers (path? value)
          if accepted.customers then
            readGiven accepted fuel { given with customers := some customers } rest
          else none
      | _, _, some found => do
          let (value, rest) ← found
          let size ← fill given.chunkSize (natural? value)
          if accepted.customers then
            readGiven accepted fuel { given with chunkSize := some size } rest
          else none
      | none, none, none =>
          if arg = "--ids" ∧ accepted.customers = true ∧ given.ids = false then
            readGiven accepted fuel { given with ids := true } rest
          else if arg = "--" ∧ rest = [] then some given
          else none

/-- Reads a command and its options. -/
def readCommand (name : String) (rest : List String) : Option Command :=
  if name = "fields" then
    (readGiven ⟨false, false⟩ rest.length .none rest).map fun _ => .fields
  else if name = "validate" then do
    let given ← readGiven ⟨true, false⟩ rest.length .none rest
    return .validate (← given.segment)
  else if name = "count" then do
    let given ← readGiven ⟨true, true⟩ rest.length .none rest
    return .count (← given.segment) (← given.customers) given.chunkSize given.ids
  else none

/-- The argument asks for help or the version. -/
def asksFor (long : String) (short : Char) (arg : String) : Bool :=
  arg == long || ['-', short].isPrefixOf arg.toList

/-- Reads the arguments after the options given so far; `fuel` bounds their number. -/
def readFrom : Nat → (config schema : Option String) → List String → Arguments
  | _, _, _, [] => usage
  | 0, _, _, _ :: _ => usage
  | fuel + 1, config, schema, arg :: rest =>
      if asksFor "--version" 'V' arg then version
      else if asksFor "--help" 'h' arg ∨ arg = "help" then help
      else
        match takeOption "--config" (arg :: rest), takeOption "--schema" (arg :: rest) with
        | some (some (value, rest)), _ =>
            if config.isSome then usage else readFrom fuel (some value) schema rest
        | _, some (some (value, rest)) =>
            if schema.isSome then usage else readFrom fuel config (some value) rest
        | some none, _ => usage
        | _, some none => usage
        | none, none =>
            match readCommand arg rest with
            | some command => invoke ⟨config, schema, command⟩
            | none => usage

/-- Reads the arguments of the program. -/
def read (args : List String) : Arguments := readFrom args.length none none args

end Arguments
end Audience
