import LevelPrep.Disk.Basic
import LevelPrep.Journal

/-!
# Where records go

Records go to handlers: the console, and log files.  A log context adds a file for as long as it is
open, and may keep the records from the handlers that were there before; when it is left, they come
back.
-/

namespace LevelPrep

/-- Where records can go; every log file that is opened has a number of its own. -/
inductive Handler where
  | console
  | file (number : Nat) (path : Path) (level : LogLevel)
deriving DecidableEq, Repr

structure Router where
  /-- Records below this level go nowhere. -/
  level : LogLevel := .debug
  handlers : List Handler := [.console]
  /-- How many log files were opened so far. -/
  opened : Nat := 0
  /-- The lines on the console. -/
  console : List String := []

/-- A log context that was entered. -/
structure LogContext where
  handler : Handler
  /-- Whether the records are kept from the handlers that were there before. -/
  exclusive : Bool
  /-- Those handlers. -/
  suspended : List Handler := []
deriving DecidableEq, Repr

/-- Reads the word for a level.  The words of the levels in small letters stand for something else. -/
def LogLevel.ofJson : Json → Except Fault LogLevel
  | .str word =>
    match ofWord? word with
    | some level => .ok level
    | none =>
      if (ofWord? word.toUpper).isSome then .error .unsuitable else .error (.unknownLevel word)
  | _ => .error .unsuitable

/-- The name of the logger that everything is reported under that is not reported under another. -/
def rootLogger : String :=
  "root"

/-- Reads the name of a logger; a value that is not set stands for the root logger. -/
def loggerName (value : Json) : Except Fault String :=
  if value.isSet then value.asText else .ok rootLogger

namespace Router

/-- Adds a handler that is not there yet. -/
def addHandler (handlers : List Handler) (h : Handler) : List Handler :=
  if handlers.contains h then handlers else handlers ++ [h]

/-- Enters a log context, which opens its file. -/
def enter (r : Router) (disk : Disk) (path : Path) (exclusive : Bool) (level : LogLevel) :
    Except Fault (LogContext × Router × Disk) := do
  let place ← disk.openFile (disk.absolute path)
  let handler := Handler.file r.opened path level
  let before := if exclusive then [] else r.handlers
  return (
    { handler, exclusive, suspended := if exclusive then r.handlers else [] },
    { r with handlers := addHandler before handler, opened := r.opened + 1 },
    disk.append place "")

/-- Leaves a log context: its file goes, and the handlers that it suspended come back. -/
def leave (r : Router) (context : LogContext) : Router :=
  let rest := r.handlers.erase context.handler
  { r with
    handlers := if context.exclusive then context.suspended.foldl addHandler rest else rest }

/-- The line of a record in a log file, behind the time. -/
def fileLine (time : String) (record : LogRecord) : String :=
  time ++ " - " ++ record.logger ++ " - " ++ record.level.word ++ " - " ++ record.message ++ "\n"

/-- Hands a record to one handler. -/
def handle (time : String) (record : LogRecord) (state : Router × Disk) : Handler → Router × Disk
  | .console =>
    ({ state.1 with
        console := state.1.console ++ [record.level.word ++ ":" ++ record.message] }, state.2)
  | .file _ path level =>
    if record.reaches level then
      match state.2.openFile (state.2.absolute path) with
      | .ok place => (state.1, state.2.append place (fileLine time record))
      | .error _ => state
    else state

/-- Hands a record to all handlers, in order. -/
def deliver (time : String) (state : Router × Disk) (record : LogRecord) : Router × Disk :=
  if record.level ≠ .unset ∧ record.reaches state.1.level then
    state.1.handlers.foldl (handle time record) state
  else state

end Router

end LevelPrep
