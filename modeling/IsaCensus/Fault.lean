import IsaCensus.Text.Hex

/-! What can keep a census from being taken, and the wording of it. Problems inside a
container are no faults: they become issues of the report. -/

namespace IsaCensus

/-- A file that cannot be opened, or a read that is refused. -/
inductive ReadFault
  | fileTooLarge (limit found : Nat)
  | readLimitExceeded (limit current : Nat)
  | outOfBounds (start length : Nat)
  | system (text : String)
deriving DecidableEq, Repr

namespace ReadFault

def message : ReadFault → String
  | .fileTooLarge limit found =>
    "File size of " ++ toString found ++ " bytes exceeds the maximum allowed size of " ++ toString limit ++ " bytes."
  | .readLimitExceeded limit current =>
    "A read operation would exceed the total read limit of " ++ toString limit ++
      " bytes. (already read: " ++ toString current ++ ")"
  | .outOfBounds start length =>
    "Range " ++ Text.hex start ++ "+" ++ Text.hex length ++ " does not fit the addressable space of this host."
  | .system text => "An underlying I/O error occurred: " ++ text

/-- The fault that lies under this one, if it only passes one on. -/
def cause? : ReadFault → Option String
  | .system text => some text
  | _ => none

end ReadFault

inductive Fault
  | invalidFormat (reason : String)
  | unsupportedFormat (format : String)
  | unsupportedArchitecture (architecture : String)
  | io (fault : ReadFault)
  | config (reason : String)
  | timeout (seconds : Nat)
  | internal (reason : String)
deriving DecidableEq, Repr

namespace Fault

def message : Fault → String
  | .invalidFormat reason => "Invalid binary format: " ++ reason
  | .unsupportedFormat format => "Unsupported container format: " ++ format
  | .unsupportedArchitecture architecture => "Unsupported architecture: " ++ architecture
  | .io fault => "I/O error: " ++ fault.message
  | .config reason => "Configuration error: " ++ reason
  | .timeout seconds => "Analysis timeout after " ++ toString seconds ++ "s"
  | .internal reason => "Internal error: " ++ reason

/-- The texts of the faults under this one, the nearest first. -/
def causes : Fault → List String
  | .io fault => fault.message :: fault.cause?.toList
  | _ => []

/-- The fault and everything under it in one line. -/
def chain (fault : Fault) : String := String.intercalate ": " (fault.message :: fault.causes)

end Fault

end IsaCensus
