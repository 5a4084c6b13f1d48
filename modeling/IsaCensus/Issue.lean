/-! Diagnostics of a census and the bounded log that keeps them. A full log only
counts, and ends with one entry that says how many were dropped. -/

namespace IsaCensus

inductive IssueKind
  | regionTruncated
  | regionUnreadable
  | seedSource
  | unsupportedEncoding
  | invalidInstruction
  | zeroLengthInstruction
  | exception
  | unresolvedAddress
  | budget
  | unsupportedArchitecture
  | suppressed
deriving DecidableEq, Repr

namespace IssueKind

def all : List IssueKind :=
  [.regionTruncated, .regionUnreadable, .seedSource, .unsupportedEncoding, .invalidInstruction,
    .zeroLengthInstruction, .exception, .unresolvedAddress, .budget, .unsupportedArchitecture, .suppressed]

def name : IssueKind → String
  | .regionTruncated => "RegionTruncated"
  | .regionUnreadable => "RegionUnreadable"
  | .seedSource => "SeedSource"
  | .unsupportedEncoding => "UnsupportedEncoding"
  | .invalidInstruction => "InvalidInstruction"
  | .zeroLengthInstruction => "ZeroLengthInstruction"
  | .exception => "Exception"
  | .unresolvedAddress => "UnresolvedAddress"
  | .budget => "Budget"
  | .unsupportedArchitecture => "UnsupportedArchitecture"
  | .suppressed => "Suppressed"

def ofName? (name : String) : Option IssueKind := all.find? (·.name == name)

theorem ofName_name (kind : IssueKind) : ofName? kind.name = some kind := by
  cases kind <;> rfl

end IssueKind

structure Issue where
  kind : IssueKind
  message : String
deriving DecidableEq, Repr

def Issue.text (issue : Issue) : String := issue.kind.name ++ ": " ++ issue.message

/-- At most `cap` issues in the order they came, and the number of those that came later. -/
structure IssueLog where
  cap : Nat
  kept : Array Issue := #[]
  suppressed : Nat := 0
deriving DecidableEq, Repr

namespace IssueLog

def push (log : IssueLog) (issue : Issue) : IssueLog :=
  if log.kept.size < log.cap then { log with kept := log.kept.push issue }
  else { log with suppressed := log.suppressed + 1 }

/-- Keeps the issue that something left behind, if it left one. -/
def note (log : IssueLog) (issue : Option Issue) : IssueLog := issue.elim log log.push

/-- The log after all the issues. -/
def record (cap : Nat) (issues : List Issue) : IssueLog := issues.foldl push { cap }

/-- A log that is handed on from one phase to the next is the log of all their issues. -/
theorem record_append (cap : Nat) (first second : List Issue) :
    record cap (first ++ second) = second.foldl push (record cap first) :=
  List.foldl_append

def finish (log : IssueLog) : List Issue :=
  if log.suppressed = 0 then log.kept.toList
  else log.kept.toList ++ [⟨.suppressed, toString log.suppressed ++ " additional diagnostics suppressed"⟩]

end IssueLog

end IsaCensus
