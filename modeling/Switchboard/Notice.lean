/-!
What the program writes to its log: lines of text, each of a level.
-/

namespace Switchboard

inductive Level where
  | error
  | warning
  | info
  | debug
  deriving DecidableEq, Inhabited

def Level.label : Level → String
  | .error => "ERROR"
  | .warning => "WARN"
  | .info => "INFO"
  | .debug => "DEBUG"

structure Notice where
  level : Level
  text : String
  deriving DecidableEq, Inhabited

end Switchboard
