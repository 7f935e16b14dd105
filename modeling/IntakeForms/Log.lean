import IntakeForms.Value

/-!
What the service tells its operators: entries of a level, from a part of the
service, with a message and named facts; and which of them are kept.
-/

namespace IntakeForms.Log

/-- The higher the level, the graver the entry. -/
structure Level where
  rank : Int
deriving DecidableEq, Repr

namespace Level

def debug : Level := ⟨10⟩

def info : Level := ⟨20⟩

def warning : Level := ⟨30⟩

def error : Level := ⟨40⟩

def table : List (Int × String) :=
  [(0, "NOTSET"), (10, "DEBUG"), (20, "INFO"), (30, "WARNING"), (40, "ERROR"), (50, "CRITICAL")]

def name (l : Level) : String := (table.lookup l.rank).getD ("Level " ++ toString l.rank)

end Level

/-- The parts of the service that write entries. -/
inductive Source
  | store
  | flow
  | submission
  | model
  | proposal
  | events
  | service
deriving DecidableEq, Repr

structure Entry where
  level : Level
  source : Source
  message : String
  facts : List (String × Value)
deriving DecidableEq

/-- Which entries are kept: all from a level on, but of some libraries only the graver ones. -/
structure Policy where
  threshold : Level
  quiet : List (String × Level)

def Policy.forEnvironment (environment : String) : Policy :=
  { threshold := if environment = "dev" then .debug else .info
    quiet := ["google", "urllib3", "httpx", "uvicorn.access"].map fun library => (library, .warning) }

end IntakeForms.Log
