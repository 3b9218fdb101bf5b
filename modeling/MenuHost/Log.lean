/-!
# Log lines

What the library reports about its own work. Operations return their lines, in
the order in which they arise, beside their results.
-/

namespace MenuHost

inductive LogLevel where
  | error
  | warn
  | info
  | debug
  | trace
deriving Repr, DecidableEq

structure LogLine where
  level : LogLevel
  text : String
deriving Repr, DecidableEq

namespace LogLine

def error (text : String) : LogLine := ⟨.error, text⟩

def warn (text : String) : LogLine := ⟨.warn, text⟩

def info (text : String) : LogLine := ⟨.info, text⟩

def debug (text : String) : LogLine := ⟨.debug, text⟩

def trace (text : String) : LogLine := ⟨.trace, text⟩

end LogLine

end MenuHost
