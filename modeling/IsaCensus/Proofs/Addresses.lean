import IsaCensus.Address

/-! Addresses as numbers. An address resolves to the first region that holds it, and the
place it resolves to tells which address it was. While a path stays in one region, the
offset at which its next address resolves is the offset that its bytes have come to. -/

namespace IsaCensus

namespace Domain

/-- The number of addresses that a domain tells apart. -/
def width : Domain → Nat
  | .va64 => 0x10000000000000000
  | .rva32 => 0x100000000

theorem toNat_normalize (domain : Domain) (address : UInt64) :
    (domain.normalize address).toNat = address.toNat % domain.width := by
  cases domain with
  | va64 => exact (Nat.mod_eq_of_lt address.toNat_lt).symm
  | rva32 =>
    have mask := Nat.and_two_pow_sub_one_eq_mod address.toNat 32
    simpa only [normalize, width, UInt64.toNat_and] using! mask

end Domain

namespace Region

theorem offset_eq_some {region : Region} {address : UInt64} {offset : Nat} :
    region.offset? address = some offset ↔
      region.base.toNat + offset = address.toNat ∧ offset < region.length := by
  simp only [offset?, UInt64.le_iff_toNat_le]
  split
  next inside =>
    rw [Option.some_inj]
    omega
  next outside =>
    simp only [reduceCtorEq, false_iff]
    omega

theorem base_add_offset {region : Region} {address : UInt64} {offset : Nat}
    (found : region.offset? address = some offset) : region.base + offset.toUInt64 = address := by
  have counted := (offset_eq_some.mp found).1
  apply UInt64.toNat_inj.mp
  rw [UInt64.toNat_add]
  have small := address.toNat_lt
  have same : offset.toUInt64.toNat = offset := Nat.mod_eq_of_lt (by omega)
  omega

end Region

/-- What it means to be the first region that holds an address. -/
structure FirstAt (regions : List Region) (address : UInt64) (location : Location) (region : Region) : Prop where
  listed : regions[location.region]? = some region
  inside : region.offset? address = some location.offset
  earlier : ∀ index < location.region, ∀ other, regions[index]? = some other → other.offset? address = none

theorem locate_first {regions : List Region} {address : UInt64} {location : Location}
    (found : locate regions address = some location) : ∃ region, FirstAt regions address location region := by
  induction regions generalizing location with
  | nil => cases found
  | cons region rest ih =>
    simp only [locate] at found
    cases inside : region.offset? address with
    | some offset =>
      simp only [inside, Option.some_inj] at found
      subst found
      exact ⟨region, rfl, inside, fun index before => absurd before (Nat.not_lt_zero index)⟩
    | none =>
      simp only [inside, Option.map_eq_some_iff] at found
      obtain ⟨later, found, rfl⟩ := found
      obtain ⟨holder, first⟩ := ih found
      refine ⟨holder, by simpa using first.listed, first.inside, ?_⟩
      intro index before other listed
      cases index with
      | zero =>
        simp only [List.getElem?_cons_zero, Option.some_inj] at listed
        exact listed ▸ inside
      | succ index => exact first.earlier index (Nat.lt_of_succ_lt_succ before) other (by simpa using listed)

theorem FirstAt.locate {regions : List Region} {address : UInt64} {location : Location} {region : Region}
    (first : FirstAt regions address location region) : locate regions address = some location := by
  obtain ⟨place, offset⟩ := location
  induction regions generalizing place with
  | nil => cases first.listed
  | cons head rest ih =>
    cases place with
    | zero =>
      cases first.listed
      simp only [IsaCensus.locate, first.inside]
    | succ place =>
      have outside : head.offset? address = none := first.earlier 0 (Nat.succ_pos place) head rfl
      have later : FirstAt rest address ⟨place, offset⟩ region :=
        ⟨first.listed, first.inside, fun index before => first.earlier (index + 1) (Nat.succ_lt_succ before)⟩
      simp only [IsaCensus.locate, outside, ih place later, Option.map_some]

/-- A listed region is the one that an address leads to if it holds the address and none before it does. -/
theorem locate_eq_some_iff {regions : List Region} {place : Nat} {region : Region}
    (listed : regions[place]? = some region) {address : UInt64} {offset : Nat} :
    locate regions address = some ⟨place, offset⟩ ↔ region.offset? address = some offset ∧
      ∀ earlier < place, ∀ other, regions[earlier]? = some other → other.offset? address = none := by
  constructor
  · intro found
    obtain ⟨holder, first⟩ := locate_first found
    cases listed.symm.trans first.listed
    exact ⟨first.inside, first.earlier⟩
  · rintro ⟨inside, earlier⟩
    exact FirstAt.locate ⟨listed, inside, earlier⟩

theorem locate_eq_none {regions : List Region} {address : UInt64} :
    locate regions address = none ↔ ∀ region ∈ regions, region.offset? address = none := by
  induction regions with
  | nil => simp [locate]
  | cons region rest ih =>
    simp only [locate, List.forall_mem_cons]
    cases inside : region.offset? address with
    | some offset => simp
    | none => simp [ih]

namespace Space

/-- No region is longer than its domain is wide. In 64 bits this holds of all bytes that a
machine can address. -/
def Fits (space : Space) : Prop := ∀ region ∈ space.regions, region.length < space.domain.width

instance (space : Space) : Decidable space.Fits :=
  inferInstanceAs (Decidable (∀ region ∈ space.regions, region.length < space.domain.width))

theorem resolve_first {space : Space} {address : UInt64} {location : Location}
    (found : space.resolve address = some location) :
    ∃ region, FirstAt space.regions (space.domain.normalize address) location region :=
  locate_first found

theorem contains_of_resolve {space : Space} {address : UInt64} {location : Location}
    (found : space.resolve address = some location) : space.contains address = true := by
  rw [contains, found]
  rfl

theorem contains_normalize (space : Space) (address : UInt64) :
    space.contains (space.domain.normalize address) = space.contains address := by
  simp only [contains, resolve_normalize]

/-- The bytes of a region do not reach around to its own beginning, so a path that is still
in its region is as far from the base as the bytes it has passed. -/
theorem resolve_advance {space : Space} {address : UInt64} {location next : Location} {region : Region} {length : Nat}
    (fits : space.Fits) (first : FirstAt space.regions address location region)
    (short : location.offset + length ≤ region.length)
    (found : space.resolve (address + length.toUInt64) = some next)
    (same : next.region = location.region) : next.offset = location.offset + length := by
  have bound := fits region (List.mem_of_getElem? first.listed)
  obtain ⟨holder, last⟩ := resolve_first found
  have equal : holder = region := Option.some_inj.mp (last.listed.symm.trans (same ▸ first.listed))
  subst equal
  have here := Region.offset_eq_some.mp first.inside
  have there := Region.offset_eq_some.mp last.inside
  have passed : length.toUInt64.toNat = length := by
    apply Nat.mod_eq_of_lt
    cases domain : space.domain <;> simp only [domain, Domain.width] at bound <;> omega
  rw [Domain.toNat_normalize, UInt64.toNat_add, passed] at there
  cases domain : space.domain <;> simp only [domain, Domain.width] at there bound <;> omega

end Space

end IsaCensus
