/-!
# Limits of the machine

The machine that a run takes place on bounds how long integers and how deep values may be, and how
much room there is for an indentation. Whoever goes beyond a bound fails.
-/

namespace ManifestEdit

/-- The most levels of a value that is encoded without a shape. Each value within counts as one. -/
def Machine.encodable : Nat := 255

/-- The bounds of a machine. What can be encoded can be written and read again. -/
class Machine where
  /-- The most digits of an integer in a text. -/
  digits : Nat
  /-- The most levels of brackets in a text that is read. -/
  readable : Nat
  /-- The most levels of a value that is written. -/
  writable : Nat
  /-- The most levels of a value that is shown in a report. -/
  shown : Nat
  /-- The widest indentation. -/
  room : Nat
  encodable_lt_readable : Machine.encodable < readable
  encodable_lt_writable : Machine.encodable < writable

namespace Machine

/-- A machine as it is set up usually, for a run with little else on its stack. -/
instance usual : Machine where
  digits := 4300
  readable := 990
  writable := 990
  shown := 990
  room := 4294967296
  encodable_lt_readable := by decide
  encodable_lt_writable := by decide

/-- Which bound was passed. -/
inductive Fault where
  /-- An integer of so many digits was to be read. -/
  | digitsRead (count : Nat)
  | digitsWritten
  /-- An object or else an array was to be read. -/
  | nestingRead (isObject : Bool)
  | nestingWritten
  | nestingShown
  deriving DecidableEq

namespace Fault

def digitsText [Machine] : String :=
  "Exceeds the limit (" ++ toString Machine.digits ++ " digits) for integer string conversion"

def digitsAdvice : String :=
  "; use sys.set_int_max_str_digits() to increase the limit"

def nestingText : String :=
  "maximum recursion depth exceeded while "

def message [Machine] : Fault → String
  | digitsRead count =>
    digitsText ++ ": value has " ++ toString count ++ " digits" ++ digitsAdvice
  | digitsWritten => digitsText ++ digitsAdvice
  | nestingRead isObject =>
    nestingText ++ "decoding a JSON " ++ (if isObject then "object" else "array") ++
      " from a unicode string"
  | nestingWritten => nestingText ++ "calling a Python object"
  | nestingShown => nestingText ++ "getting the repr of an object"

end Fault

end Machine

end ManifestEdit
