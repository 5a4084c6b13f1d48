import Std.Data.HashSet
import IsaCensus.Address

/-! The seeds of a census. Sources offer candidates one after the other; what is kept of
them is the first occurrence of each address that is not zero and lies in a region. -/

namespace IsaCensus

structure Offer where
  name : String
  candidates : List UInt64
deriving DecidableEq, Repr

/-- What became of the candidates of one source. -/
structure SeedSource where
  name : String
  candidates : Nat := 0
  added : Nat := 0
  skippedZero : Nat := 0
  skippedNotExecutable : Nat := 0
  skippedDuplicate : Nat := 0
deriving DecidableEq, Repr

structure SeedSummary where
  sources : List SeedSource := []
  accepted : Nat := 0
deriving DecidableEq, Repr

def SeedSummary.source? (summary : SeedSummary) (name : String) : Option SeedSource :=
  summary.sources.find? (·.name == name)

/-- An accepted address with the place of its source among the sources. -/
structure Seed where
  address : UInt64
  source : Nat
deriving DecidableEq, Repr

structure SeedSet where
  seeds : List Seed := []
  summary : SeedSummary := {}
deriving DecidableEq, Repr

namespace SeedSet

def addresses (set : SeedSet) : List UInt64 := set.seeds.map Seed.address

/-- The name of the source that an address came from. -/
def originOf? (set : SeedSet) (address : UInt64) : Option String := do
  let seed ← set.seeds.find? (·.address == address)
  let source ← set.summary.sources[seed.source]?
  return source.name

end SeedSet

/-- Why a candidate is kept or not. -/
inductive Verdict
  | zero
  | duplicate
  | notExecutable
  | accepted
deriving DecidableEq, Repr

namespace SeedSource

def count (source : SeedSource) (verdict : Verdict) : SeedSource :=
  let source := { source with candidates := source.candidates + 1 }
  match verdict with
  | .zero => { source with skippedZero := source.skippedZero + 1 }
  | .duplicate => { source with skippedDuplicate := source.skippedDuplicate + 1 }
  | .notExecutable => { source with skippedNotExecutable := source.skippedNotExecutable + 1 }
  | .accepted => { source with added := source.added + 1 }

end SeedSource

structure Collector where
  space : Space
  seen : Std.HashSet UInt64 := {}
  seeds : Array Seed := #[]
  sources : Array SeedSource := #[]
  accepted : Nat := 0

namespace Collector

def verdict (collector : Collector) (address : UInt64) : Verdict :=
  if address = 0 then .zero
  else if address ∈ collector.seen then .duplicate
  else if !collector.space.contains address then .notExecutable
  else .accepted

/-- Takes a candidate of the source that is offering, whose counts are carried along. -/
def take (collector : Collector) (source : SeedSource) (candidate : UInt64) : Collector × SeedSource :=
  let address := collector.space.domain.normalize candidate
  let verdict := collector.verdict address
  (if verdict = .accepted then
      { collector with
        seen := collector.seen.insert address
        seeds := collector.seeds.push ⟨address, collector.sources.size⟩ }
    else collector, source.count verdict)

def takeAll (collector : Collector) (source : SeedSource) : List UInt64 → Collector × SeedSource
  | [] => (collector, source)
  | candidate :: rest =>
    let (collector, source) := collector.take source candidate
    collector.takeAll source rest

def offer (collector : Collector) (offer : Offer) : Collector :=
  let (collector, source) := collector.takeAll { name := offer.name } offer.candidates
  { collector with
    sources := collector.sources.push source
    accepted := collector.accepted + source.added }

def finish (collector : Collector) : SeedSet where
  seeds := collector.seeds.toList
  summary := { sources := collector.sources.toList, accepted := collector.accepted }

end Collector

def SeedSet.collect (space : Space) (offers : List Offer) : SeedSet :=
  (offers.foldl Collector.offer { space }).finish

end IsaCensus
