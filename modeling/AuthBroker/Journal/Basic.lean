import AuthBroker.Document.Display

/-!
The journal: records with a level, a message and dimensions.

A logger puts a label in front of every message and adds its own dimensions to those of the
call; where both name a key, the call wins. Loggers are derived from one another by a further
label or further dimensions.
-/

namespace AuthBroker

inductive Level where
  | debug
  | info
  | warning
  | error
  | critical
  deriving DecidableEq, Repr

namespace Level

def name : Level → String
  | .debug => "DEBUG"
  | .info => "INFO"
  | .warning => "WARNING"
  | .error => "ERROR"
  | .critical => "CRITICAL"

/-- The number of a level; a more serious level has a greater one. -/
def number : Level → Nat
  | .debug => 10
  | .info => 20
  | .warning => 30
  | .error => 40
  | .critical => 50

def verbs : List String :=
  ["debug", "info", "warning", "warn", "error", "exception", "critical", "fatal", "log"]

/-- The names of what else a journal consists of: its loggers, handlers and layouts, and what sets
them up. -/
def fixtures : List String :=
  ["Logger", "LoggerAdapter", "LogRecord", "Manager", "RootLogger", "root", "getLogger",
    "getLoggerClass", "setLoggerClass", "makeLogRecord", "getLogRecordFactory",
    "setLogRecordFactory", "Handler", "StreamHandler", "FileHandler", "NullHandler", "lastResort",
    "Filter", "Filterer", "Formatter", "BufferingFormatter", "PercentStyle", "StrFormatStyle",
    "StringTemplateStyle", "BASIC_FORMAT", "addLevelName", "getLevelName", "getLevelNamesMapping",
    "basicConfig", "captureWarnings", "disable", "shutdown"]

/-- The names of the switches of a journal. All are on, and count as a level below every other. -/
def switches : List String :=
  ["raiseExceptions", "logThreads", "logProcesses", "logMultiprocessing"]

/-- Why a name stands for no level: nothing has the name, or something else has it. -/
inductive NameDefect where
  | unknown (name : String)
  | taken (name : String)
  deriving DecidableEq, Repr

def NameDefect.message : NameDefect → String
  | .unknown name => "no level is named " ++ name
  | .taken name => name ++ " is no level"

/-- What a name stands for: a level, or for `NOTSET` and the switches none, and then nothing is
recorded. Two levels have a second name. -/
def ofName : String → Except NameDefect (Option Level)
  | "NOTSET" => .ok none
  | "DEBUG" => .ok (some .debug)
  | "INFO" => .ok (some .info)
  | "WARNING" | "WARN" => .ok (some .warning)
  | "ERROR" => .ok (some .error)
  | "CRITICAL" | "FATAL" => .ok (some .critical)
  | name =>
    if switches.contains name then .ok none
    else .error (if (verbs ++ fixtures).contains name then .taken name else .unknown name)

end Level

/-- A journal record. Records of the usage forwarder carry no dimensions. -/
structure LogRecord where
  level : Level
  message : String
  dimensions : Option Fields
  deriving Repr, BEq

/-- A label and dimensions that go with every record. -/
structure Logger where
  label : String
  dimensions : Fields
  deriving Repr, BEq

namespace Logger

/-- The logger that all others of the broker are derived from. -/
def root : Logger := ⟨"", [("environment", .text "test")]⟩

/-- The logger that puts a further label after the present one. -/
def withLabel (logger : Logger) (label : String) : Logger :=
  { logger with label := logger.label ++ label }

def withDimensions (logger : Logger) (dimensions : Fields) : Logger :=
  { logger with dimensions := logger.dimensions.insertAll dimensions }

/-- A record of this logger with the dimensions of the call. -/
def recordWith (logger : Logger) (level : Level) (message : String) (dimensions : Fields) :
    LogRecord :=
  ⟨level, logger.label ++ message, some (logger.dimensions.insertAll dimensions)⟩

def record (logger : Logger) (level : Level) (message : String) : LogRecord :=
  logger.recordWith level message []

end Logger

end AuthBroker
