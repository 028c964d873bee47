/-! The tokens of a YAML text. Blocks that the text marks by indentation are marked by tokens of their
    own. -/

namespace Resilience.Yaml

/-- How a scalar is written. -/
inductive Style
  | plain | singleQuoted | doubleQuoted | literal | folded
deriving DecidableEq

inductive Token
  | version (major minor : Nat)
  /-- Declares what a handle stands for in tags. -/
  | tagHandle (handle stem : String)
  | documentStart
  | documentEnd
  | blockSequenceStart
  | blockMappingStart
  | blockEnd
  | flowSequenceStart
  | flowSequenceEnd
  | flowMappingStart
  | flowMappingEnd
  | blockEntry
  | flowEntry
  | key
  | value
  | alias (name : String)
  | anchor (name : String)
  | tag (handle suffix : String)
  | scalar (text : String) (style : Style)
deriving DecidableEq

end Resilience.Yaml
