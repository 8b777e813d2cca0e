import Sgr.Log.Layout

/-!
# The log

A record has a level, the name of the logger it came through and a message. It is handed over if its
level is above zero and reaches the threshold of its logger. Records of the program's own loggers,
which are the top one and those below it, go to the handlers of the top logger, and further outwards
if that one lets them pass. A handler writes a line to a stream, or nothing. A record that meets no
handler at all is a last resort of the process: its message is written to the standard error if it
is a warning at least.

Which loggers are below the top one is told by their names and by which loggers are in use: a logger
is below the nearest one that has the name in front of a dot of its own name. The dots are tried
from the last one on, and the character in front of a dot that was tried in vain is passed over.

Streams are numbered, and the log keeps every line together with the stream it went to.

## Main definitions

* `reachesTop` — whether a name leads to the top logger.
* `LogHandler` — what is done with a record.
* `Log`, `Log.write`, `Log.send` — the log, and a record written to it or sent through a logger.
* `Log.configure` — another handler for the log.
* `Log.textOf` — what a stream received.
-/

namespace Sgr

/-- The name of the program's top logger. -/
def rootLogger : String := "sgrfmt"

/-- The stream of the process that is written to where no logger has a handler. -/
def errorStream : Nat := 1

/-! ## Loggers -/

/-- Whether the name of a logger, read from its end, leads to the top logger by way of the loggers
in use. The character in front of a dot is passed over unless one of them has the name up to
there. -/
def reachesTop (loggers : List String) (passes : Bool) : List Char → Bool
  | [] => false
  | c :: front =>
    if passes || c ≠ '.' then reachesTop loggers false front
    else if front = rootLogger.toList.reverse then true
    else reachesTop loggers (!loggers.any (·.toList.reverse = front)) front

/-- What is done with a record: nothing, or a line for it is written to a stream. -/
inductive LogHandler where
  | silent
  | stream (number : Nat) (layout : Layout)
  deriving DecidableEq, Repr, Inhabited

namespace LogHandler

/-- The name of the type of a handler. -/
def typeName : LogHandler → String
  | silent => "NullHandler"
  | stream .. => "StreamHandler"

/-- What a handler writes for a record. A record that the layout has no line for is not written. -/
def lines (now : String) (r : Record) : LogHandler → List (Nat × String)
  | silent => []
  | stream number layout => (layout.line? now r).toList.map fun line => (number, line)

end LogHandler

/-- What is written for a record that meets no handler. -/
def Record.lastResort (r : Record) : List (Nat × String) :=
  if LogLevel.warning.code ≤ r.level then [(errorStream, r.message ++ "\n")] else []

/-! ## The log -/

/-- The level and the handlers of the top logger, and whether its records pass to the handlers
outside of the program; the loggers in use besides the program's own; and the lines that were
written, each with its stream. -/
structure Log where
  level : Int := LogLevel.none.code
  handlers : List LogHandler := [.silent]
  propagates : Bool := false
  outer : List LogHandler := []
  loggers : List String := []
  lines : List (Nat × String) := []
  deriving DecidableEq, Repr, Inhabited

namespace Log

/-- Puts a logger in use. -/
def use (log : Log) (name : String) : Log :=
  if log.loggers.contains name then log else { log with loggers := name :: log.loggers }

/-- Whether a logger is one of the program's: the top one, or one below it. -/
def owns (log : Log) (name : String) : Bool :=
  name = rootLogger || reachesTop log.loggers false name.toList.reverse

/-- The level that a record of a logger has to reach. Level zero stands for the general default. -/
def threshold (log : Log) (name : String) : Int :=
  if log.owns name && log.level ≠ 0 then log.level else LogLevel.warning.code

/-- The handlers that the records of a logger meet. -/
def handlersOf (log : Log) (name : String) : List LogHandler :=
  if log.owns name then log.handlers ++ if log.propagates then log.outer else [] else log.outer

/-- What is written for a record. -/
def linesOf (log : Log) (now : String) (r : Record) : List (Nat × String) :=
  if 0 < r.level ∧ log.threshold r.logger ≤ r.level then
    match log.handlersOf r.logger with
    | [] => r.lastResort
    | handlers => handlers.flatMap (·.lines now r)
  else []

/-- Sends a record. -/
def write (log : Log) (now : String) (r : Record) : Log :=
  { log with lines := log.lines ++ log.linesOf now r }

/-- Sends a record through a logger that is in use from then on. -/
def send (log : Log) (now : String) (r : Record) : Log :=
  (log.use r.logger).write now r

/-- Removes the handlers of the top logger. -/
def unhandled (log : Log) : Log :=
  { log with handlers := [] }

/-- Sets the level and a handler of the top logger, whose records do not pass outwards then. -/
def handleWith (log : Log) (level : Int) (handler : LogHandler) : Log :=
  { log with level, handlers := log.handlers ++ [handler], propagates := false }

/-- The record of a setup. -/
def setupRecord (level : Int) : Record where
  level := LogLevel.debug.code
  logger := rootLogger
  message := "Logging configured at level " ++ levelName level

/-- Sets the level and the one handler. The silent level and those above it write nothing. -/
def configure (log : Log) (now : String) (level : Int) (layout : Layout) (stream : Nat) : Log :=
  if LogLevel.none.code ≤ level then log.unhandled.handleWith LogLevel.none.code .silent
  else
    (log.unhandled.handleWith level (.stream stream layout)).write now (setupRecord level)

/-- What a stream received. -/
def textOf (log : Log) (stream : Nat) : String :=
  String.join ((log.lines.filter (·.1 = stream)).map Prod.snd)

/-- Forgets what a stream received. -/
def clear (log : Log) (stream : Nat) : Log :=
  { log with lines := log.lines.filter (·.1 ≠ stream) }

end Log

end Sgr
