import Loremark.Log.Event

/-!
# Where events go

Events go to the console from a level on that the reader chooses, and, if a directory is given, to
a file there at every level, one line for each event. Some loggers of others are kept at warnings
whatever has been chosen, and so are the loggers below them. A file that has been closed stays in
the list of sinks but takes no more lines.
-/

set_option autoImplicit false

namespace Loremark.Log

/-- Where events go, and from which level on. -/
structure Sinks where
  /-- The level from which on events are handed to any sink. -/
  root : Level := .warning
  /-- The level from which on events are shown. -/
  console : Level := .warning
  /-- Whether a directory for a file has been given. -/
  hasDirectory : Bool := false
  /-- Whether the file takes lines. -/
  isOpen : Bool := false
  deriving DecidableEq, Repr, Inhabited

/-- The level shown at a verbosity. -/
def consoleLevel (verbosity : Int) : Level :=
  if verbosity ≤ 0 then .warning else if verbosity = 1 then .info else .debug

namespace Sinks

/-- The sinks at a verbosity, with a file or without one. -/
def configure (verbosity : Int) (hasDirectory : Bool) : Sinks where
  root := if verbosity > 0 || hasDirectory then .debug else .warning
  console := consoleLevel verbosity
  hasDirectory := hasDirectory
  isOpen := hasDirectory

/-- The number of sinks. -/
def count (s : Sinks) : Nat := if s.hasDirectory then 2 else 1

/-- Closes the file. -/
def close (s : Sinks) : Sinks := { s with isOpen := false }

/-- The loggers that are kept at warnings. -/
def quietLoggers : List Text := ["httpx", "httpcore", "markdown_it", "asyncio"].map String.toList

/-- Whether a logger, or one that it stands below, is kept at warnings. -/
def isQuiet (logger : Text) : Bool :=
  quietLoggers.any fun quiet =>
    match Text.after? quiet logger with
    | some rest => rest.isEmpty || rest.head? == some '.'
    | none => false

/-- The level from which on the events of a logger are handed to the sinks. -/
def levelOf (s : Sinks) (logger : Text) : Level := if isQuiet logger then .warning else s.root

/-- Whether an event is handed to the sinks. -/
def admits (s : Sinks) (event : Event) : Bool :=
  (s.levelOf event.logger).rank ≤ event.level.rank

/-- The entries that no context can set. -/
def isReserved (key : Text) : Bool := key == "level".toList || key == "timestamp".toList

end Sinks

/-- An event as a line: time, level, logger and message, and then its context, which can take the
place of logger and message. -/
def Event.line (timestamp : Value) (event : Event) : List (Value × Value) :=
  let key (name : String) : Value := .text name.toList
  (event.context.filter fun (key, _) => !Sinks.isReserved key).foldl
    (fun line (key, value) => Value.put (.text key) value line)
    [(key "timestamp", timestamp), (key "level", .text event.level.name),
      (key "logger", .text event.logger), (key "message", .text event.name)]

/-- The lines that an event adds to the file. -/
def Sinks.lines (s : Sinks) (timestamp : Value) (event : Event) : List (List (Value × Value)) :=
  if s.isOpen && s.admits event then [event.line timestamp] else []

/-- Whether an event is shown on the console. -/
def Sinks.shows (s : Sinks) (event : Event) : Bool :=
  s.admits event && s.console.rank ≤ event.level.rank

end Loremark.Log
