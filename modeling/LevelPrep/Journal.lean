/-!
# Journals

What a run has to say goes into its journal, record by record.
-/

namespace LevelPrep

/-- How much a record matters. -/
inductive LogLevel where
  /-- No level: everything is at least as important, and what is reported so goes nowhere. -/
  | unset
  | debug
  | info
  | warning
  | error
  | critical
deriving DecidableEq, Repr

namespace LogLevel

def all : List LogLevel :=
  [unset, debug, info, warning, error, critical]

/-- The word for the level in log lines. -/
def word : LogLevel → String
  | unset => "NOTSET"
  | debug => "DEBUG"
  | info => "INFO"
  | warning => "WARNING"
  | error => "ERROR"
  | critical => "CRITICAL"

/-- The level of a word; two levels have a second word. -/
def ofWord? (word : String) : Option LogLevel :=
  if word = "WARN" then some warning
  else if word = "FATAL" then some critical
  else all.find? (·.word = word)

/-- The place of a level in the order of importance. -/
def rank : LogLevel → Nat
  | unset => 0
  | debug => 10
  | info => 20
  | warning => 30
  | error => 40
  | critical => 50

end LogLevel

/-- A record of a journal, under the name of what reports it. -/
structure LogRecord where
  level : LogLevel
  logger : String
  message : String
deriving DecidableEq, Repr

/-- Whether a record is at least as important as a level. -/
def LogRecord.reaches (r : LogRecord) (level : LogLevel) : Bool :=
  level.rank ≤ r.level.rank

end LevelPrep
