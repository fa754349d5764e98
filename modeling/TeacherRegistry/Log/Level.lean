/-!
Levels of diagnostic events, from the gravest to the most detailed.
-/

namespace TeacherRegistry.Log

inductive Level where
  | error
  | warn
  | info
  | debug
  | trace
deriving Repr, DecidableEq

namespace Level

/-- The number of a level; a threshold admits the levels up to it, and 0 admits none. -/
def rank : Level → Nat
  | .error => 1
  | .warn => 2
  | .info => 3
  | .debug => 4
  | .trace => 5

def label : Level → String
  | .error => "ERROR"
  | .warn => "WARN"
  | .info => "INFO"
  | .debug => "DEBUG"
  | .trace => "TRACE"

end Level

end TeacherRegistry.Log
