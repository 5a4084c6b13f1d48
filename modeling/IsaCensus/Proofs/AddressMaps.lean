import Mathlib.Data.List.Pairwise
import Mathlib.Data.Option.Basic
import IsaCensus.Proofs.Excerpts

/-! The two maps of an address. One leads into the regions that were read, and one into the file,
over all ranges of the layout. Where the ranges do not overlap, both come to the same byte, and the
second leads no further into a range that holds code than the first. -/

namespace IsaCensus

theorem MappedRange.toNat_delta {range : MappedRange} {address : UInt64} {delta : Nat}
    (counted : range.base.toNat + delta = address.toNat) : (address - range.base).toNat = delta := by
  have above : range.base ≤ address := UInt64.le_iff_toNat_le.mpr (by omega)
  rw [UInt64.toNat_sub_of_le _ _ above]
  omega

namespace Layout

variable {layout : Layout}

theorem backing_contains {address : UInt64} {range : MappedRange} (backing : layout.backing? address = some range) :
    range.contains address = true := by
  have found := List.find?_some backing
  exact (Bool.and_eq_true_iff.mp found).2

/-- Where an address stands in the file: as far behind the beginning of the first range that
contains it as it is above the base of the range. -/
theorem fileOffset_eq_some {address found remaining : UInt64} :
    layout.fileOffset? address = some (found, remaining) ↔
      ∃ range start delta, layout.backing? address = some range ∧ range.fileOffset = some start ∧
        range.base.toNat + delta = address.toNat ∧ found.toNat = start.toNat + delta ∧
        remaining.toNat + delta = range.length.toNat := by
  simp only [fileOffset?, Option.bind_eq_bind, Option.bind_eq_some_iff, Option.guard_eq_some', Option.pure_def,
    Option.some_inj, Prod.mk.injEq]
  constructor
  · rintro ⟨range, backing, start, placed, _, fits, rfl, rfl⟩
    obtain ⟨delta, inside, counted⟩ := MappedRange.contains_iff.mp (backing_contains backing)
    have passed := MappedRange.toNat_delta counted
    have left : address - range.base ≤ range.length := UInt64.le_iff_toNat_le.mpr (by omega)
    refine ⟨range, start, delta, backing, placed, counted, ?_, ?_⟩
    · rw [UInt64.toNat_add, passed]
      exact Nat.mod_eq_of_lt (passed ▸ fits)
    · rw [UInt64.toNat_sub_of_le _ _ left, passed]
      omega
  · rintro ⟨range, start, delta, backing, placed, counted, offset, rest⟩
    have passed := MappedRange.toNat_delta counted
    have left : address - range.base ≤ range.length := UInt64.le_iff_toNat_le.mpr (by omega)
    have small := found.toNat_lt
    refine ⟨range, backing, start, placed, (), ?_, ?_, ?_⟩
    · rw [passed]
      exact offset ▸ small
    · apply UInt64.toNat_inj.mp
      rw [UInt64.toNat_add, passed, Nat.mod_eq_of_lt (offset ▸ small), offset]
    · apply UInt64.toNat_inj.mp
      rw [UInt64.toNat_sub_of_le _ _ left, passed]
      omega

/-- The ranges that code is read from, with those beside them that hold none: the segments if one of
them holds code, or the sections if there are no segments. -/
inductive Mapped (layout : Layout) : List MappedRange → Prop
  | segments (chosen : layout.code.1 = .segments) : Mapped layout layout.segments
  | sections (bare : layout.segments = []) : Mapped layout layout.sections

section Mapped
variable {ranges : List MappedRange}

theorem Mapped.code (mapped : layout.Mapped ranges) : layout.code.2 = ranges.filter MappedRange.holdsCode := by
  cases mapped with
  | segments chosen =>
    unfold Layout.code at chosen ⊢
    split at chosen
    next => cases chosen
    next => cases chosen
    next => rfl
  | sections bare =>
    unfold Layout.code
    rw [bare]
    split
    next none => exact none.symm
    next => rfl
    next impossible _ => exact absurd rfl impossible

theorem Mapped.code_disjoint (mapped : layout.Mapped ranges) (disjoint : ranges.Pairwise MappedRange.Disjoint) :
    layout.code.2.Pairwise MappedRange.Disjoint := by
  rw [mapped.code]
  exact disjoint.filter _

/-- Where ranges are disjoint, the one that contains an address is the first one. -/
theorem Mapped.backing (mapped : layout.Mapped ranges) (disjoint : ranges.Pairwise MappedRange.Disjoint)
    {range : MappedRange} (listed : range ∈ ranges) {start : UInt64} (placed : range.fileOffset = some start)
    {address : UInt64} (contains : range.contains address = true) : layout.backing? address = some range := by
  have present : (ranges.find? fun other => other.fileOffset.isSome && other.contains address).isSome = true := by
    refine List.find?_isSome.mpr ⟨range, listed, ?_⟩
    rw [placed, contains]
    rfl
  obtain ⟨first, found⟩ := Option.isSome_iff_exists.mp present
  have tested := List.find?_some found
  have also : first.contains address = true := (Bool.and_eq_true_iff.mp tested).2
  have same : first = range := by
    by_contra different
    exact disjoint.forall (List.mem_of_find?_eq_some found) listed different address ⟨also, contains⟩
  subst same
  cases mapped with
  | segments => rw [backing?, List.find?_append, found, Option.some_or]
  | sections bare => rw [backing?, bare, List.nil_append, found]

/-- Every range of a layout of 32 bits ends inside of them. Other ranges may reach up to the last
address and, in what they say of their length, beyond it. -/
def Narrow (layout : Layout) (ranges : List MappedRange) : Prop :=
  layout.format = .pe → ∀ range ∈ ranges, range.base.toNat + range.length.toNat ≤ 0x100000000

theorem Mapped.reduced (mapped : layout.Mapped ranges) (narrow : layout.Narrow ranges) :
    ∀ range ∈ layout.code.2, layout.domain.normalize range.base = range.base := by
  intro range chosen
  rw [mapped.code] at chosen
  obtain ⟨listed, code⟩ := List.mem_filter.mp chosen
  have occupied := UInt64.lt_iff_toNat_lt.mp (MappedRange.holdsCode_iff.mp code).2.1
  apply UInt64.toNat_inj.mp
  rw [Domain.toNat_normalize]
  apply Nat.mod_eq_of_lt
  cases format : layout.format with
  | elf =>
    rw [domain, format]
    exact range.base.toNat_lt
  | pe =>
    have ends := narrow format range listed
    rw [domain, format]
    simp only [Format.domain, Domain.width, UInt64.toNat_zero] at occupied ⊢
    omega

end Mapped

/-- The address of a byte of a region leads to the same byte of the file. -/
theorem Mapped.fileOffset {content : Bytes} {ranges : List MappedRange} {range : MappedRange} {start : UInt64}
    {region : Region} (mapped : layout.Mapped ranges) (disjoint : ranges.Pairwise MappedRange.Disjoint)
    (addressable : content.size ≤ UInt64.size) (listed : range ∈ ranges)
    (yields : range.Yields content layout.domain start region)
    (reduced : layout.domain.normalize range.base = range.base) {address : UInt64} {delta : Nat}
    (inside : region.offset? address = some delta) :
    ∃ found remaining, layout.fileOffset? address = some (found, remaining) ∧ found.toNat = start.toNat + delta ∧
      delta + remaining.toNat = range.length.toNat := by
  obtain ⟨counted, small⟩ := (yields.offset_iff reduced).mp inside
  have within := yields.within
  have short := yields.short
  have length := range.length.toNat_lt
  have top : UInt64.size = 0x10000000000000000 := rfl
  have offset : (start.toNat + delta).toUInt64.toNat = start.toNat + delta := Nat.mod_eq_of_lt (by omega)
  have rest : (range.length.toNat - delta).toUInt64.toNat = range.length.toNat - delta := Nat.mod_eq_of_lt (by omega)
  refine ⟨(start.toNat + delta).toUInt64, (range.length.toNat - delta).toUInt64, ?_, offset, ?_⟩
  · have backing := mapped.backing disjoint listed yields.placed (yields.contains reduced inside)
    exact fileOffset_eq_some.mpr ⟨range, start, delta, backing, yields.placed, counted, offset, by omega⟩
  · omega

/-- The two maps of an address agree. Let the segments of a layout be disjoint, or its sections if it
has no segments. Then an address that resolves to a place in a region stands in the file where the
bytes of that region come from, and as far before the end of the range that the region was read from
as the range is long. An address of such a range that stands in the part of the file which was read
of it resolves, and to that part. -/
theorem address_maps_agree (layout : Layout) (config : Config) (source : Source)
    (addressable : source.content.size ≤ UInt64.size) {ranges : List MappedRange} (mapped : layout.Mapped ranges)
    (disjoint : ranges.Pairwise MappedRange.Disjoint) (narrow : layout.Narrow ranges) (address : UInt64) :
    let space : Space := ⟨layout.domain, (layout.regions config source).1.regions⟩
    let reduced := layout.domain.normalize address
    (∀ place offset, space.resolve address = some ⟨place, offset⟩ →
      ∃ range region found remaining, (layout.excerpts config source)[place]? = some (range, region) ∧
        space.regions[place]? = some region ∧ layout.fileOffset? reduced = some (found, remaining) ∧
        found.toNat < source.content.size ∧ region.bytes[offset]? = source.content[found.toNat]? ∧
        offset + remaining.toNat = range.length.toNat) ∧
    (∀ range region start found remaining, (range, region) ∈ layout.excerpts config source →
      range.fileOffset = some start → range.contains reduced = true →
      layout.fileOffset? reduced = some (found, remaining) → start.toNat ≤ found.toNat →
      found.toNat < start.toNat + region.length →
      ∃ place, (layout.excerpts config source)[place]? = some (range, region) ∧
        space.resolve address = some ⟨place, found.toNat - start.toNat⟩) := by
  intro space reduced
  have canonical := mapped.reduced narrow
  have chosen {range : MappedRange} (code : range ∈ layout.code.2) : range ∈ ranges := by
    rw [mapped.code] at code
    exact List.mem_of_mem_filter code
  refine ⟨?_, ?_⟩
  · intro place offset resolved
    obtain ⟨region, first⟩ := Space.resolve_first resolved
    obtain ⟨range, listed⟩ := excerpt_at first.listed
    obtain ⟨code, start, yields⟩ := excerpt_yields (List.mem_of_getElem? listed)
    obtain ⟨found, remaining, standing, offset, rest⟩ :=
      mapped.fileOffset disjoint addressable (chosen code) yields (canonical range code) first.inside
    have within := yields.within
    have small := Region.offset_lt first.inside
    refine ⟨range, region, found, remaining, listed, first.listed, standing, by omega, ?_, rest⟩
    rw [yields.getElem? small, offset]
  · intro range region start found remaining member placed contains standing above below
    obtain ⟨place, listed⟩ := List.mem_iff_getElem?.mp member
    obtain ⟨code, _, yields⟩ := excerpt_yields member
    have backing := mapped.backing disjoint (chosen code) placed contains
    obtain ⟨holder, begins, delta, first, placement, counted, offset, _⟩ := fileOffset_eq_some.mp standing
    cases backing.symm.trans first
    cases placed.symm.trans placement
    have inside : region.offset? reduced = some (found.toNat - start.toNat) := by
      rw [yields.offset_iff (canonical range code)]
      omega
    exact ⟨place, listed, locate_excerpt (mapped.code_disjoint disjoint) canonical listed inside⟩

/-- A section that reaches beyond the end of a file of six bytes, and what is read of it. -/
def shiftedText : MappedRange :=
  { label := ".text", base := 0x3000, fileOffset := some 2, length := 8, permissions.execute := true }

def shiftedRegion : Region := { label := ".text", base := 0x3000, bytes := #[0x90, 0xc3, 0xcc, 0xcc] }

/-- Before it come a section that lies behind the end of the file, and one that holds no code. -/
def shiftedLayout : Layout where
  format := .pe
  architecture := .x86
  bitness := 32
  sections := [
    { label := ".init", base := 0x1000, fileOffset := some 0x100, length := 16, permissions.execute := true },
    { label := ".data", base := 0x2000, fileOffset := some 0, length := 4, permissions.write := true },
    shiftedText]

def shiftedFile : Bytes := #[0, 0, 0x90, 0xc3, 0xcc, 0xcc]

/-- The third section gives the first region, whose second and last byte are found by aliases. -/
theorem shifted_maps_agree :
    shiftedFile.size ≤ UInt64.size ∧ shiftedLayout.Mapped shiftedLayout.sections ∧
    shiftedLayout.sections.Pairwise MappedRange.Disjoint ∧ shiftedLayout.Narrow shiftedLayout.sections ∧
    (∃ found remaining, shiftedLayout.fileOffset? 0x3001 = some (found, remaining) ∧
      shiftedRegion.bytes[1]? = shiftedFile[found.toNat]? ∧ 1 + remaining.toNat = shiftedText.length.toNat) ∧
    ∃ place, (shiftedLayout.excerpts {} (.memory shiftedFile))[place]? = some (shiftedText, shiftedRegion) ∧
      Space.resolve ⟨.rva32, (shiftedLayout.regions {} (.memory shiftedFile)).1.regions⟩ 0x100003003 =
        some ⟨place, 3⟩ := by
  have addressable : shiftedFile.size ≤ UInt64.size := by decide
  have mapped : shiftedLayout.Mapped shiftedLayout.sections := .sections rfl
  have narrow : shiftedLayout.Narrow shiftedLayout.sections := fun _ => by decide
  have disjoint : shiftedLayout.sections.Pairwise MappedRange.Disjoint := by
    have ordered : shiftedLayout.sections.Pairwise fun first second =>
        first.base.toNat + first.length.toNat ≤ second.base.toNat := by decide
    exact ordered.imp MappedRange.disjoint_of_before
  have excerpts : shiftedLayout.excerpts {} (.memory shiftedFile) = [(shiftedText, shiftedRegion)] := by
    decide +kernel
  have agree (address : UInt64) :=
    address_maps_agree shiftedLayout {} (.memory shiftedFile) addressable mapped disjoint narrow address
  refine ⟨addressable, mapped, disjoint, narrow, ?_, ?_⟩
  · obtain ⟨range, region, found, remaining, listed, _, standing, _, byte, rest⟩ :=
      (agree 0x100003001).1 0 1 (by decide +kernel)
    rw [excerpts] at listed
    cases listed
    exact ⟨found, remaining, standing, byte, rest⟩
  · have standing : shiftedLayout.fileOffset? 0x3003 = some (5, 5) := by decide
    exact (agree 0x100003003).2 shiftedText shiftedRegion 2 5 5 (by rw [excerpts]; exact List.mem_singleton_self _) rfl
      (by decide) standing (by decide) (by decide)

end Layout

end IsaCensus
