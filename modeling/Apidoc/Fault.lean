import Apidoc.Data.Json.Reader
import Apidoc.Data.Yaml.Reader
import Apidoc.Repository.Disk
import Apidoc.Syntax.Printer
import Apidoc.Text.Utf8

/-!
# Faults

Everything that can end an operation, by cause.  Some causes have a message of their own.
-/

namespace Apidoc

inductive Fault where
  | disk (fault : DiskFault)
  | unprintable (fault : Syntax.PrintFault)
  /-- a file that should hold text holds something else -/
  | notText (fault : Text.Utf8Fault)
  | json (fault : Json.Fault)
  | yaml (fault : Yaml.Fault)
  /-- a value that should be a map is none -/
  | notMap
  /-- a value that has no place in the format it is written in -/
  | unwritable
  /-- a value of the wrong kind -/
  | wrongKind
  | missingField
  /-- an answer without content -/
  | emptyReply
  /-- batches of no component -/
  | zeroSize
  /-- a value that a page asks for is not there -/
  | undefinedValue
  /-- a text for the console ends a style that was not started -/
  | badStyle
  /-- the service has no key -/
  | noServiceKey
  deriving DecidableEq, Repr

/-- The numbers of digits an integer may have is limited. -/
def longIntegerMessage (digits : Nat) : String :=
  "Exceeds the limit (4300 digits) for integer string conversion: value has " ++ toString digits ++
    " digits; use sys.set_int_max_str_digits() to increase the limit"

def Json.Fault.message : Json.Fault → Option String
  | .malformed => none
  | .longInteger n => some (longIntegerMessage n)

def Yaml.Fault.message : Yaml.Fault → Option String
  | .longInteger n => some (longIntegerMessage n)
  | .badInteger base text =>
    some ("invalid literal for int() with base " ++ toString base ++ ": " ++ Text.quoted text)
  | .badFloat text => some ("could not convert string to float: " ++ Text.quoted text)
  | .date f => some f.message
  | .malformed | .emptyNumber | .badTruth | .badMoment => none

def Fault.message : Fault → Option String
  | .disk f => some f.message
  | .unprintable f => some f.message
  | .notText f => some f.message
  | .json f => f.message
  | .yaml f => f.message
  | .zeroSize => some "range() arg 3 must not be zero"
  | .noServiceKey =>
    some ("Anthropic API key required. Set ANTHROPIC_API_KEY environment variable " ++
      "or pass api_key parameter.")
  | _ => none

end Apidoc
