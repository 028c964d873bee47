import Resilience.Settings.Basic
import Resilience.Text.Lowercase

/-! The words for strategies, levels and formats. Files use the names themselves; other inputs may use
    letters of either case. -/

namespace Resilience.Settings

def Strategy.name : Strategy → String
  | .constant => "constant"
  | .exponential => "exponential"

/-- The names that may be chosen. -/
def Strategy.choices : List String := ["constant", "exponential"]

def Format.name : Format → String
  | .json => "json"
  | .text => "text"
  | .compact => "compact"
  | .pretty => "pretty"

/-- The strategy with a name, up to the case of letters. -/
def Strategy.parse (s : String) : Except String Strategy :=
  let word := Text.lowercase s
  if word = "constant" then .ok .constant
  else if word = "exponential" then .ok .exponential
  else .error ("Invalid backoff strategy: " ++ s)

/-- The level with a name, up to the case of letters; a warning may be spelled out. -/
def parseLevel (s : String) : Except String Level :=
  let word := Text.lowercase s
  if word = "error" then .ok .error
  else if word = "warn" ∨ word = "warning" then .ok .warn
  else if word = "info" then .ok .info
  else if word = "debug" then .ok .debug
  else if word = "trace" then .ok .trace
  else .error ("Invalid log level: " ++ s)

/-- The format with a name, up to the case of letters. -/
def Format.parse (s : String) : Except String Format :=
  let word := Text.lowercase s
  if word = "json" then .ok .json
  else if word = "text" then .ok .text
  else if word = "compact" then .ok .compact
  else if word = "pretty" then .ok .pretty
  else .error ("Invalid log format: " ++ s)

end Resilience.Settings
