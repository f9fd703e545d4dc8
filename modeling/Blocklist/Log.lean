/-! # Log

What a run tells while it works. An entry has a level and a text.
-/

namespace Blocklist

/-- Weight of an entry. -/
inductive LogLevel where
  | debug
  | info
  | warn
  deriving Repr, DecidableEq

/-- Name of the level. -/
def LogLevel.name : LogLevel → String
  | debug => "DEBUG"
  | info => "INFO"
  | warn => "WARN"

/-- One line of the log. Its time and the part of the program that it comes from are left out. -/
structure LogEntry where
  level : LogLevel
  text : String
  deriving Repr, DecidableEq

end Blocklist
