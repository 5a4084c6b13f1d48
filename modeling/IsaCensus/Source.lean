import IsaCensus.Bytes
import IsaCensus.Config
import IsaCensus.Fault

/-! Where the bytes of a container are read from: from memory, or from a file under limits.
A file hands out a limited number of bytes over all reads. What is charged is what a read
yields, not what it asks for, and a refused read is not charged. -/

namespace IsaCensus

/-- How many bytes may be read, and how many were. -/
structure Budget where
  limit : Nat
  spent : Nat := 0
deriving DecidableEq, Repr

structure Source where
  content : Bytes
  /-- Bytes in memory can be read without a budget. -/
  budget : Option Budget := none
deriving DecidableEq, Repr

namespace Source

def memory (content : Bytes) : Source := { content }

/-- A file may not be larger than its limit. -/
def openFile (limits : ReadLimits) (content : Bytes) : Except ReadFault Source :=
  if limits.maxFileSize.toNat < content.size then
    .error (.fileTooLarge limits.maxFileSize.toNat content.size)
  else .ok { content, budget := some { limit := limits.maxReadBytes.toNat } }

def size (source : Source) : Nat := source.content.size

/-- The part of a range that the content covers. An empty part is always given out. -/
def read (start length : UInt64) (source : Source) : Except ReadFault Bytes × Source :=
  let found := source.content.window start.toNat length.toNat
  match source.budget with
  | none => (.ok found, source)
  | some budget =>
    if found.size = 0 then (.ok found, source)
    else if budget.limit < budget.spent + found.size then
      (.error (.readLimitExceeded budget.limit budget.spent), source)
    else (.ok found, { source with budget := some { budget with spent := budget.spent + found.size } })

/-- Under every budget, what is given out is the part of the range that the content covers. -/
theorem read_eq_window {start length : UInt64} {source : Source} {bytes : Bytes}
    (granted : (source.read start length).1 = .ok bytes) :
    source.content.window start.toNat length.toNat = bytes := by
  simp only [read] at granted
  cases budget : source.budget with
  | none =>
    simp only [budget] at granted
    exact Except.ok.inj granted
  | some budget =>
    simp only [budget] at granted
    split at granted
    next => exact Except.ok.inj granted
    next =>
      split at granted
      next => cases granted
      next => exact Except.ok.inj granted

theorem read_refused {start length : UInt64} {source : Source} {fault : ReadFault}
    (refused : (source.read start length).1 = .error fault) : source.read start length = (.error fault, source) := by
  simp only [read] at refused ⊢
  cases budget : source.budget with
  | none =>
    simp only [budget] at refused
    cases refused
  | some budget =>
    simp only [budget] at refused ⊢
    split at refused
    next => cases refused
    next occupied =>
      split at refused
      next exceeds =>
        rw [if_neg occupied, if_pos exceeds]
        cases refused
        rfl
      next => cases refused

theorem read_memory (content : Bytes) (start length : UInt64) :
    (memory content).read start length = (.ok (content.window start.toNat length.toNat), memory content) := rfl

end Source

end IsaCensus
