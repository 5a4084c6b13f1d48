import IsaCensus.Container.Layout
import IsaCensus.Issue
import IsaCensus.Seed.Collector
import IsaCensus.Traversal.Control
import IsaCensus.Traversal.Totals

/-! The report of a census and how it is put together. Features are counted by name: two
features of one name are one line of the report. -/

namespace IsaCensus

/-- Counts by name, in the order of the names. -/
abbrev FeatureUsage := List (String × Nat)

namespace FeatureUsage

def add (name : String) (count : Nat) : FeatureUsage → FeatureUsage
  | [] => [(name, count)]
  | (other, n) :: rest =>
    if name = other then (other, n + count) :: rest
    else if name < other then (name, count) :: (other, n) :: rest
    else (other, n) :: add name count rest

/-- The larger count comes first, and of equal counts the smaller name. -/
def before (a b : String × Nat) : Bool := b.2 < a.2 || (a.2 == b.2 && a.1 ≤ b.1)

def byCount (usage : FeatureUsage) : List (String × Nat) := usage.mergeSort before

end FeatureUsage

structure RegionSummary where
  label : String
  base : UInt64
  length : Nat
deriving DecidableEq, Repr

def Region.summary (region : Region) : RegionSummary := ⟨region.label, region.base, region.length⟩

structure Report where
  format : Option Format := none
  architecture : Option Architecture := none
  bitness : Nat := 0
  bytesSampled : Nat := 0
  bytesDecoded : Nat := 0
  instructions : Nat := 0
  invalid : Nat := 0
  features : FeatureUsage := []
  issues : List Issue := []
  seeds : SeedSummary := {}
  regions : List RegionSummary := []
  outcome : Outcome := .completed
deriving DecidableEq, Repr

namespace Report

def featuresByCount (report : Report) : List (String × Nat) := report.features.byCount

/-- The run was ended by its token or its budget. It may have decoded everything by then. -/
def isPartial (report : Report) : Bool := report.outcome ≠ .completed

/-- A report in the making. What is set later replaces what was set before, except that
feature counts add up. -/
structure Draft where
  format : Option Format := none
  architecture : Option Architecture := none
  bitness : Nat := 0
  regions : List RegionSummary := []
  bytesDecoded : Nat := 0
  instructions : Nat := 0
  invalid : Nat := 0
  outcome : Outcome := .completed
  features : FeatureUsage := []
  seeds : SeedSummary := {}
  issues : List Issue := []
deriving DecidableEq, Repr

namespace Draft

def setFormat (draft : Draft) (format : Format) : Draft := { draft with format := some format }

def setArchitecture (draft : Draft) (architecture : Architecture) : Draft :=
  { draft with architecture := some architecture }

def setBitness (draft : Draft) (bitness : Nat) : Draft := { draft with bitness }

def setRegions (draft : Draft) (regions : List Region) : Draft :=
  { draft with regions := regions.map Region.summary }

def addTraversal {φ : Type} (draft : Draft) (name : φ → String) (totals : Totals φ) (outcome : Outcome) : Draft :=
  { draft with
    bytesDecoded := totals.bytesDecoded
    instructions := totals.instructions
    invalid := totals.invalid
    outcome
    features := totals.features.foldl (fun usage (feature, n) => usage.add (name feature) n) draft.features }

def setSeeds (draft : Draft) (seeds : SeedSummary) : Draft := { draft with seeds }

def setIssues (draft : Draft) (log : IssueLog) : Draft := { draft with issues := log.finish }

def bytesSampled (draft : Draft) : Nat := draft.regions.foldr (fun region total => region.length + total) 0

/-- No more bytes are reported as decoded than were sampled. -/
def build (draft : Draft) : Report where
  format := draft.format
  architecture := draft.architecture
  bitness := draft.bitness
  bytesSampled := draft.bytesSampled
  bytesDecoded := min draft.bytesDecoded draft.bytesSampled
  instructions := draft.instructions
  invalid := draft.invalid
  features := draft.features
  issues := draft.issues
  seeds := draft.seeds
  regions := draft.regions
  outcome := draft.outcome

end Draft

end Report

end IsaCensus
