import AuthBroker.Journal.Basic
import AuthBroker.Journal.Template

/-!
Records on lines: a filled template, and behind it the dimensions of the record in brackets, in
ascending order of their keys.
-/

namespace AuthBroker

def sortedDimensions (dimensions : Fields) : Fields :=
  dimensions.mergeSort fun a b => decide (a.1 ≤ b.1)

def renderDimensions (dimensions : Fields) : String :=
  " ".intercalate ((sortedDimensions dimensions).map fun (key, value) => key ++ "=" ++ value.display)

namespace LogRecord

/-- A count of whole seconds or milliseconds. -/
def clock (n : Nat) : Document :=
  .float (.ofRatio false n 1)

/-- The fields that a template may name in a record that was made by hand: it comes from no place in
a program, and its time, its thread and its process are nominal ones. -/
def fields (record : LogRecord) (loggerName : String) : Fields :=
  [("name", .text loggerName),
    ("msg", .text record.message),
    ("args", .null),
    ("levelname", .text record.level.name),
    ("levelno", .int record.level.number),
    ("pathname", .text ""),
    ("filename", .text ""),
    ("module", .text ""),
    ("exc_info", .null),
    ("exc_text", .null),
    ("stack_info", .null),
    ("lineno", .int 0),
    ("funcName", .null),
    ("created", clock 1763000000),
    ("msecs", clock 0),
    ("relativeCreated", clock 1000),
    ("thread", .int 140000000000000),
    ("threadName", .text "MainThread"),
    ("processName", .text "MainProcess"),
    ("process", .int 1000)] ++
  (record.dimensions.map fun dimensions => ("dimensions", .object dimensions)).toList ++
  [("message", .text record.message), ("asctime", .text "2025-11-13 02:13:20,000")]

/-- The line of a record: the filled template, then the dimensions in brackets, if any. -/
def line (record : LogRecord) (loggerName template : String) : Except Template.Defect String := do
  let base ← (← Template.ofText template).fill (record.fields loggerName)
  match record.dimensions with
  | none | some [] => return base
  | some dimensions => return base ++ " [" ++ renderDimensions dimensions ++ "]"

end LogRecord

end AuthBroker
