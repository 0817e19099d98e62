import Webprint.Text.Blank

set_option autoImplicit false

/-!
# Log records

What compiling and analysing have to tell. Records are values that the functions return beside their
results, in the order in which things happen.
-/

namespace Webprint

inductive LogLevel where
  | debug
  | info
  | warn
  | error
deriving DecidableEq, Repr

def LogLevel.name : LogLevel → String
  | .debug => "DEBUG"
  | .info => "INFO"
  | .warn => "WARN"
  | .error => "ERROR"

structure LogRecord where
  level : LogLevel
  message : String
deriving DecidableEq, Repr

def LogRecord.line (r : LogRecord) : String := r.level.name ++ " " ++ r.message

/-- Writes at most `room` characters of a text, each run of blanks as one space. -/
def previewFrom : Bool → Nat → List Char → List Char
  | _, _, [] => []
  | _, 0, _ :: _ => ['…']
  | afterBlank, room + 1, c :: rest =>
    if Text.isBlank c then
      if afterBlank then previewFrom true (room + 1) rest
      else ' ' :: previewFrom true room rest
    else c :: previewFrom false room rest

def preview (room : Nat) (s : List Char) : List Char := previewFrom false room (Text.trim s)

end Webprint
