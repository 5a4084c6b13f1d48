import IsaCensus.Bytes

/-! Addresses and the executable regions that they fall into. Regions may overlap and
need no order: of those that contain an address the first one listed is meant. -/

namespace IsaCensus

/-- How a container addresses its code: full virtual addresses, or addresses relative
to the image base in a space of 32 bits. -/
inductive Domain
  | va64
  | rva32
deriving DecidableEq, Repr

namespace Domain

def normalize : Domain → UInt64 → UInt64
  | .va64, address => address
  | .rva32, address => address &&& 0xffffffff

theorem normalize_normalize (domain : Domain) (address : UInt64) :
    domain.normalize (domain.normalize address) = domain.normalize address := by
  cases domain with
  | va64 => rfl
  | rva32 => simp [normalize, UInt64.and_assoc]

end Domain

/-- Executable bytes loaded at `base`. -/
structure Region where
  label : String := ""
  base : UInt64
  bytes : Bytes
deriving DecidableEq, Repr

namespace Region

def length (region : Region) : Nat := region.bytes.size

/-- Where an address lies inside the region. The region never wraps past the last address. -/
def offset? (region : Region) (address : UInt64) : Option Nat :=
  if region.base ≤ address ∧ address.toNat - region.base.toNat < region.length then
    some (address.toNat - region.base.toNat)
  else none

theorem offset_lt {region : Region} {address : UInt64} {offset : Nat}
    (found : region.offset? address = some offset) : offset < region.length := by
  unfold offset? at found
  split at found
  next inside => cases found; exact inside.2
  next => cases found

end Region

structure Location where
  region : Nat
  offset : Nat
deriving DecidableEq, Repr

/-- The first region that holds the address, by its place in the list. -/
def locate : List Region → UInt64 → Option Location
  | [], _ => none
  | region :: rest, address =>
    match region.offset? address with
    | some offset => some ⟨0, offset⟩
    | none => (locate rest address).map fun location => { location with region := location.region + 1 }

structure Space where
  domain : Domain
  regions : List Region
deriving DecidableEq, Repr

namespace Space

def resolve (space : Space) (address : UInt64) : Option Location :=
  locate space.regions (space.domain.normalize address)

def contains (space : Space) (address : UInt64) : Bool := (space.resolve address).isSome

/-- The number of bytes in all regions, which bounds the number of addresses that resolve. -/
def extent (space : Space) : Nat := space.regions.foldr (fun region total => region.length + total) 0

theorem resolve_normalize (space : Space) (address : UInt64) :
    space.resolve (space.domain.normalize address) = space.resolve address := by
  simp [resolve, Domain.normalize_normalize]

end Space

end IsaCensus
