/-! Severities of log records, from the most verbose to the most severe. -/

namespace Resilience

inductive Level
  | trace | debug | info | warn | error
deriving DecidableEq, Repr

namespace Level

def name : Level → String
  | .trace => "trace"
  | .debug => "debug"
  | .info => "info"
  | .warn => "warn"
  | .error => "error"

/-- The place of a level in the order of severity. -/
def rank : Level → Nat
  | .trace => 0
  | .debug => 1
  | .info => 2
  | .warn => 3
  | .error => 4

/-- Every level, least severe first. -/
def all : List Level := [.trace, .debug, .info, .warn, .error]

/-- Whether a record of level `l` passes a threshold. -/
def reaches (l least : Level) : Bool := least.rank ≤ l.rank

end Level
end Resilience
