import Resilience.Settings.Document
import Resilience.Settings.Environment
import Resilience.Yaml.Select
import Resilience.Yaml.Text

/-! Loading a configuration. A file, if one is given, stands in place of the defaults; environment
    variables are laid over that, and the result is checked. The first fault is reported. -/

namespace Resilience.Settings

inductive LoadError
  | fileMissing
  /-- The bytes of the file are no UTF-8. -/
  | fileNotText
  /-- The file is no configuration in JSON. -/
  | json
  /-- The file is no configuration in YAML. -/
  | yaml
  | variable (name cause : String)
  | violation (v : Violation)
  | overflow (cause : Overflow)
deriving DecidableEq

namespace LoadError

def ofVariable : VariableError → LoadError
  | .invalid name cause => .variable name cause
  | .violation v => .violation v
  | .overflow cause => .overflow cause

/-- What an error says. For a file that is no configuration that is left to its reader. -/
def message? : LoadError → Option String
  | .fileMissing => some "Failed to read config file: No such file or directory (os error 2)"
  | .fileNotText => some "Failed to read config file: stream did not contain valid UTF-8"
  | .json => none
  | .yaml => none
  | .variable name cause => some s!"Environment variable error: Invalid {name}: {cause}"
  | .violation v => some v.message
  | .overflow cause => some cause.message

end LoadError

/-! ### Files -/

structure File where
  name : String
  /-- The bytes in the file, if it exists. -/
  content : Option ByteArray

/-- What follows the last point of a name. A name that has no other point than its first character has
    no extension. -/
def extension? (name : String) : Option String :=
  match (Text.splitAt '.' name.toList).reverse with
  | [] => none
  | [_] => none
  | [_, []] => none
  | last :: _ => some (String.ofList last)

/-- Files hold JSON if their extension says so, in letters of either case, and else YAML. -/
def File.isJson (f : File) : Bool := (extension? f.name).any (Text.sameIgnoringCase "json")

/-- The configuration in a document, which may be malformed as a document already. -/
def Config.ofFile (malformed : LoadError) (document : Option Json) : Except LoadError Config :=
  match document.map ofDocument with
  | some (.ok c) => .ok c
  | some (.error (.overflow cause)) => .error (.overflow cause)
  | _ => .error malformed

/-- The configuration in a file. -/
def File.config (f : File) : Except LoadError Config :=
  match f.content with
  | none => .error .fileMissing
  | some bytes =>
    match String.fromUTF8? bytes with
    | none => .error .fileNotText
    | some s =>
      if f.isJson then Config.ofFile .json (Config.shape.ofJsonText? s)
      else Config.ofFile .yaml (Yaml.ofText? Config.shape s)

/-- The text of a file with this configuration. -/
def Config.yamlText (c : Config) : String := Yaml.text c.toDocument

/-- A file to start from, with all settings at their defaults. -/
def sampleText : String := Config.yamlText {}

/-! ### Loading -/

/-- The configuration of a file, or the default one, with the environment laid over it. -/
def Config.gather (stem : String) (env : Environment) (file : Option File) : Except LoadError Config := do
  let base ←
    match file with
    | some f => f.config
    | none => .ok {}
  match base.overlay stem env with
  | .ok c => .ok c
  | .error e => .error (.ofVariable e)

/-- How loading ended, and the warnings that were written. -/
structure Loaded where
  config : Except LoadError Config
  warnings : List String

/-- Gathers a configuration and checks it. -/
def Config.load (stem : String) (env : Environment) (file : Option File) : Loaded :=
  match gather stem env file with
  | .error e => ⟨.error e, []⟩
  | .ok c =>
    ⟨match c.validate with
      | .ok () => .ok c
      | .error v => .error (.violation v),
     c.warnings⟩

end Resilience.Settings
