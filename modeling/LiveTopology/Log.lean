/-!
This module contains log records and the line that each of them is printed as.
-/

namespace LiveTopology.Log

inductive Level where
  | info
  | warn
  | error
  deriving DecidableEq, Repr

def Level.label : Level → String
  | .info => "INFO"
  | .warn => "WARN"
  | .error => "ERROR"

structure Record where
  level : Level
  message : String
  fields : List (String × String)
  deriving DecidableEq, Repr

namespace Record

def info (message : String) (fields : List (String × String)) : Record :=
  ⟨.info, message, fields⟩

def warn (message : String) (fields : List (String × String)) : Record :=
  ⟨.warn, message, fields⟩

def error (message : String) (fields : List (String × String)) : Record :=
  ⟨.error, message, fields⟩

def line (r : Record) : String :=
  s!"{r.level.label} {r.message}"
    ++ String.join (r.fields.map fun (name, value) => s!" {name}={value}")

end Record

end LiveTopology.Log
