import Turtle.Fault

/-!
# Log lines and logger setup

The program logs under the logger family `robodraw`. A logger's name gets the family prefix
unless it already starts with the family name. A log line is `<name> - <LEVEL> - <message>`,
where a name inside the family with more than three dot-separated parts is cut to its first
three, so that the lines of a module's helpers read as the module's own.

Levels are numbers; the named ones are `CRITICAL` (50, also `FATAL`), `ERROR` (40), `WARNING`
(30, also `WARN`), `INFO` (20), `DEBUG` (10) and `NOTSET` (0). A number without a name is shown as
`Level <n>`. A level is asked for by the name of a value the logging library exports: a level,
or another value, which shows as `Level <value>` in a line and must name a level to serve as a
threshold. Setting up the family's logger gives it the level `DEBUG`, stops its lines from also
going to the root logger, and attaches one console handler at the terminal level (by default
`WARNING`) with the line format above.
-/

namespace Turtle

namespace Logging

/-- The name of the program's logger family. -/
def family : String := "robodraw"

/-- The level names, each with its number. -/
def namedLevels : List (String × Int) :=
  [("CRITICAL", 50), ("FATAL", 50), ("ERROR", 40), ("WARN", 30), ("WARNING", 30), ("INFO", 20),
   ("DEBUG", 10), ("NOTSET", 0)]

/-- The name a level is shown with. -/
def levelName (n : Int) : String :=
  match n with
  | 50 => "CRITICAL"
  | 40 => "ERROR"
  | 30 => "WARNING"
  | 20 => "INFO"
  | 10 => "DEBUG"
  | 0 => "NOTSET"
  | n => "Level " ++ toString n

/-- A value that may stand for a level, as far as a level lookup tells values apart: a number, a
truth value (true is the number one, false the number zero, yet shown differently), a text, the
absent value, a container that cannot be a key (its type, and how it is written when that does
not depend on the running process), or any other object (how it is written). -/
inductive LevelValue where
  | number (n : Int)
  | flag (b : Bool)
  | text (s : String)
  | nothing
  | container (kind : String) (written : Option String)
  | object (written : String)

/-- How a class is written, by its module and name. -/
def classWritten (module name : String) : String := "<class " ++ Text.quoted (module ++ "." ++ name) ++ ">"

/-- The classes the logging library defines. -/
def classes : List String :=
  ["LogRecord", "PercentStyle", "StrFormatStyle", "StringTemplateStyle", "Formatter",
   "BufferingFormatter", "Filter", "Filterer", "Handler", "StreamHandler", "FileHandler",
   "_StderrHandler", "PlaceHolder", "Manager", "Logger", "RootLogger", "LoggerAdapter",
   "NullHandler"]

/-- The default line format of the library. -/
def basicFormat : String := "%(levelname)s:%(name)s:%(message)s"

/-- The names the library makes public, in its order. -/
def publicNames : List String :=
  ["BASIC_FORMAT", "BufferingFormatter", "CRITICAL", "DEBUG", "ERROR", "FATAL", "FileHandler",
   "Filter", "Formatter", "Handler", "INFO", "LogRecord", "Logger", "LoggerAdapter", "NOTSET",
   "NullHandler", "StreamHandler", "WARN", "WARNING", "addLevelName", "basicConfig",
   "captureWarnings", "critical", "debug", "disable", "error", "exception", "fatal",
   "getLevelName", "getLogger", "getLoggerClass", "info", "log", "makeLogRecord",
   "setLoggerClass", "shutdown", "warn", "warning", "getLogRecordFactory",
   "setLogRecordFactory", "lastResort", "raiseExceptions", "getLevelNamesMapping"]

/-- A table written with braces, from its entries already written. -/
def tableWritten (entries : List String) : String := "\x7b" ++ ", ".intercalate entries ++ "\x7d"

/-- The line format styles, each with its marker, class and default format. -/
def styles : List (String × String × String) :=
  [("%", "PercentStyle", basicFormat),
   ("\x7b", "StrFormatStyle", "\x7blevelname\x7d:\x7bname\x7d:\x7bmessage\x7d"),
   ("$", "StringTemplateStyle", "$\x7blevelname\x7d:$\x7bname\x7d:$\x7bmessage\x7d")]

/-- The handler that takes lines when no handler is configured, as written. -/
def lastResortWritten : String := "<_StderrHandler <stderr> (WARNING)>"

/-- The value the logging library exports under a name: the level numbers and their tables, the
switches that are on by default, the default formats, the library's descriptive texts, the
absent warning hook, the tables of handlers, the fallback handler, the root logger, the classes and
the built-in and frozen modules it holds; any other name is no export. -/
def exported (name : String) : Except Fault LevelValue :=
  match namedLevels.lookup name with
  | some n => pure (.number n)
  | none =>
    if classes.contains name then pure (.object (classWritten "logging" name)) else
    match name with
    | "raiseExceptions" | "logThreads" | "logProcesses" | "logMultiprocessing" => pure (.flag true)
    | "BASIC_FORMAT" => pure (.text basicFormat)
    | "__name__" | "__package__" => pure (.text "logging")
    | "__version__" => pure (.text "0.5.1.2")
    | "__status__" => pure (.text "production")
    | "__date__" => pure (.text "07 February 2010")
    | "_warnings_showwarning" => pure .nothing
    | "_levelToName" =>
      pure (.container "dict" (some <| tableWritten ([50, 40, 30, 20, 10, 0].map fun n =>
        toString n ++ ": " ++ Text.quoted (levelName n))))
    | "_nameToLevel" =>
      pure (.container "dict" (some <| tableWritten (namedLevels.map fun (k, n) =>
        Text.quoted k ++ ": " ++ toString n)))
    | "_STYLES" =>
      pure (.container "dict" (some <| tableWritten (styles.map fun (mark, cls, fmt) =>
        Text.quoted mark ++ ": (" ++ classWritten "logging" cls ++ ", " ++ Text.quoted fmt ++ ")")))
    | "__all__" => pure (.container "list" (some ("[" ++ ", ".intercalate (publicNames.map Text.quoted) ++ "]")))
    | "__builtins__" => pure (.container "dict" none)
    | "__path__" | "_handlerList" => pure (.container "list" none)
    | "_handlers" => pure (.container "WeakValueDictionary" none)
    | "_at_fork_reinit_lock_weakset" => pure (.container "WeakSet" none)
    | "os" | "io" => pure (.object ("<module " ++ Text.quoted name ++ " (frozen)>"))
    | "lastResort" | "_defaultLastResort" => pure (.object lastResortWritten)
    | "root" => pure (.object "<RootLogger root (WARNING)>")
    | "_loggerClass" => pure (.object (classWritten "logging" "Logger"))
    | "_logRecordFactory" => pure (.object (classWritten "logging" "LogRecord"))
    | "Template" => pure (.object (classWritten "string" "Template"))
    | "StrFormatter" => pure (.object (classWritten "string" "Formatter"))
    | "GenericAlias" => pure (.object (classWritten "types" "GenericAlias"))
    | "sys" | "time" | "atexit" => pure (.object ("<module " ++ Text.quoted name ++ " (built-in)>"))
    | _ => throw (.noSuchExport name)

/-- The name a level value is shown with: a named number by its name, a level name by its
number, a container fails as it cannot be looked up, anything else is `Level <value>`. -/
def LevelValue.shown : LevelValue → Except Fault String
  | .number n => pure (levelName n)
  | .flag false => pure (levelName 0)
  | .flag true => pure "Level True"
  | .text s =>
    match namedLevels.lookup s with
    | some n => pure (toString n)
    | none => pure ("Level " ++ s)
  | .nothing => pure "Level None"
  | .container kind _ => throw (.unhashable kind)
  | .object w => pure ("Level " ++ w)

/-- A level value accepted as a threshold: numbers and truth values as they are, a text only if
it names a level, nothing else. -/
def LevelValue.checked : LevelValue → Except Fault LevelValue
  | .text s =>
    match namedLevels.lookup s with
    | some n => pure (.number n)
    | none => throw (.unknownLevel s)
  | .nothing => throw (.notALevel "None")
  | .container kind w => throw (.notALevel (w.getD ("<" ++ kind ++ ">")))
  | .object w => throw (.notALevel w)
  | v => pure v

/-- The level value a request gives: the export of the logging library its text names; a datum
that is no text names nothing. -/
def levelOf : Datum → Except Fault LevelValue
  | .text s => exported s
  | d => throw (.attributeNotText d.typeName)

/-- The full name of a logger asked for by a short name. -/
def loggerName (name : String) : String :=
  if name.startsWith family then name else family ++ "." ++ name

/-- The name a log line shows: inside the family, at most three dot-separated parts. -/
def shownName (name : String) : String :=
  if name.startsWith (family ++ ".") then
    let parts := name.splitOn "."
    if parts.length > 3 then ".".intercalate (parts.take 3) else name
  else name

/-- The format of the console's log lines. -/
def lineFormat : String := "%(name)s - %(levelname)s - %(message)s"

/-- A log line. -/
def line (name level message : String) : String :=
  shownName name ++ " - " ++ level ++ " - " ++ message

/-- A handler of the family's logger: its kind, level, formatter and line format. -/
structure Handler where
  kind : String
  level : String
  formatter : String
  format : String

/-- The family's logger once set up. -/
structure Setup where
  name : String
  level : String
  propagate : Bool
  handlers : List Handler

/-- Sets up the family's logger with a console handler at the terminal level. -/
def setup (terminal : Datum) : Except Fault Setup := do
  let level ← (← (← levelOf terminal).checked).shown
  pure { name := family, level := levelName 10, propagate := false,
         handlers := [⟨"StreamHandler", level, "RobodrawFormatter", lineFormat⟩] }

end Logging

end Turtle
