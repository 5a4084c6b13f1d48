import IsaCensus.Proofs.Addresses
import IsaCensus.Proofs.RegionReads

/-! Which range a region was read from. A range that cannot be read gives no region, so the places
of the regions are not those of the ranges. Each region is listed here with its range: it begins
where the range does, and has the bytes that the file has there, as far as they could be read. -/

namespace IsaCensus

namespace Source

variable {α β : Type} {reading : α → Source → β × Source}

/-- What stands beside an item was read for it, out of the same content. -/
theorem mem_zip_readEach (keeps : ∀ item turn, (reading item turn).2.content = turn.content) {items : List α}
    {source : Source} {item : α} {value : β} (listed : (item, value) ∈ items.zip (source.readEach reading items).1) :
    item ∈ items ∧ ∃ turn, turn.content = source.content ∧ (reading item turn).1 = value := by
  induction items generalizing source with
  | nil => cases listed
  | cons first rest ih =>
    simp only [readEach, List.zip_cons_cons] at listed
    rcases List.mem_cons.mp listed with same | later
    · cases same
      exact ⟨List.mem_cons_self, source, rfl, rfl⟩
    · obtain ⟨member, turn, content, read⟩ := ih later
      exact ⟨List.mem_cons_of_mem first member, turn, content.trans (keeps first source), read⟩

end Source

namespace MappedRange

theorem contains_iff {range : MappedRange} {address : UInt64} : range.contains address = true ↔
    ∃ delta < range.length.toNat, range.base.toNat + delta = address.toNat := by
  simp only [contains, Bool.decide_and, Bool.and_eq_true, decide_eq_true_eq]
  constructor
  · rintro ⟨above, inside⟩
    rw [UInt64.lt_iff_toNat_lt, UInt64.toNat_sub_of_le _ _ above] at inside
    rw [UInt64.le_iff_toNat_le] at above
    exact ⟨address.toNat - range.base.toNat, inside, by omega⟩
  · rintro ⟨delta, inside, counted⟩
    have above : range.base ≤ address := UInt64.le_iff_toNat_le.mpr (by omega)
    rw [UInt64.lt_iff_toNat_lt, UInt64.toNat_sub_of_le _ _ above]
    exact ⟨above, by omega⟩

/-- No address lies in both ranges. -/
def Disjoint (first second : MappedRange) : Prop :=
  ∀ address, ¬(first.contains address = true ∧ second.contains address = true)

instance : Std.Symm Disjoint := ⟨fun _ _ disjoint address both => disjoint address both.symm⟩

theorem disjoint_of_before {first second : MappedRange}
    (before : first.base.toNat + first.length.toNat ≤ second.base.toNat) : first.Disjoint second := by
  rintro address ⟨inside, also⟩
  obtain ⟨_, small, counted⟩ := contains_iff.mp inside
  obtain ⟨_, _, same⟩ := contains_iff.mp also
  omega

/-- A region as it is read of a range that stands at an offset of the file. -/
structure Yields (content : Bytes) (domain : Domain) (range : MappedRange) (offset : UInt64) (region : Region) :
    Prop where
  placed : range.fileOffset = some offset
  base : region.base = domain.normalize range.base
  occupied : 0 < region.length
  short : region.length ≤ range.length.toNat
  within : offset.toNat + region.length ≤ content.size
  bytes : region.bytes = content.extract offset.toNat (offset.toNat + region.length)

section Yields
variable {content : Bytes} {domain : Domain} {range : MappedRange} {offset : UInt64} {region : Region}

theorem yields_excerpt {cap : UInt64} (placed : range.fileOffset = some offset)
    (occupied : 0 < range.available content cap offset) :
    range.Yields content domain offset
      (range.excerpt domain content offset (range.available content cap offset)) := by
  have size := range.size_available cap offset content
  have length : (range.excerpt domain content offset (range.available content cap offset)).length =
      range.available content cap offset := size
  have bound : range.available content cap offset ≤ range.length.toNat ∧
      range.available content cap offset ≤ content.size - offset.toNat := by
    rw [available]
    omega
  refine ⟨placed, rfl, ?_, ?_, ?_, ?_⟩
  · rwa [length]
  · rw [length]
    exact bound.1
  · rw [length]
    omega
  · rw [length]
    rfl

theorem Extracts.yields {cap : UInt64} {budget left : Option Budget} {issue : Option Issue}
    (extracts : Extracts content cap domain range budget (some region) issue left) :
    ∃ offset, range.Yields content domain offset region := by
  cases extracts with
  | truncated placed occupied | whole placed occupied => exact ⟨_, yields_excerpt placed occupied⟩

/-- Inside a region, the file goes on as the region does. -/
theorem Yields.getElem? (yields : range.Yields content domain offset region) {index : Nat}
    (inside : index < region.length) : region.bytes[index]? = content[offset.toNat + index]? := by
  have within := yields.within
  rw [yields.bytes, Array.getElem?_extract, if_pos (by omega)]

/-- A region of a range whose base is an address of the domain lies where the range does. -/
theorem Yields.offset_iff (yields : range.Yields content domain offset region)
    (reduced : domain.normalize range.base = range.base) {address : UInt64} {delta : Nat} :
    region.offset? address = some delta ↔ range.base.toNat + delta = address.toNat ∧ delta < region.length := by
  rw [Region.offset_eq_some, yields.base, reduced]

theorem Yields.contains (yields : range.Yields content domain offset region)
    (reduced : domain.normalize range.base = range.base) {address : UInt64} {delta : Nat}
    (inside : region.offset? address = some delta) : range.contains address = true := by
  have short := yields.short
  obtain ⟨counted, small⟩ := (yields.offset_iff reduced).mp inside
  exact contains_iff.mpr ⟨delta, by omega, counted⟩

end Yields

theorem content_extract (domain : Domain) (cap : UInt64) (range : MappedRange) (source : Source) :
    (range.extract domain cap source).2.content = source.content := by
  cases placed : range.fileOffset with
  | none => rw [extract, placed]
  | some offset =>
    obtain ⟨left, _, turn⟩ := extract_extracts range cap domain source placed
    rw [turn]

theorem extract_yields {domain : Domain} {cap : UInt64} {range : MappedRange} {source : Source} {region : Region}
    (found : (range.extract domain cap source).1.region = some region) :
    ∃ offset, range.Yields source.content domain offset region := by
  cases placed : range.fileOffset with
  | none =>
    rw [extract, placed] at found
    cases found
  | some offset =>
    obtain ⟨left, extracts, _⟩ := extract_extracts range cap domain source placed
    rw [found] at extracts
    exact extracts.yields

end MappedRange

namespace Layout

variable (layout : Layout) (config : Config) (source : Source)

/-- The ranges that give a region, in their order, each with the region that it gives. -/
def excerpts : List (MappedRange × Region) :=
  (layout.code.2.zip (source.readEach (MappedRange.extract layout.domain config.maxRegionBytes) layout.code.2).1).filterMap
    fun (range, extraction) => extraction.region.map (range, ·)

/-- The regions of a layout, without their ranges. -/
theorem excerpts_regions : (layout.excerpts config source).map Prod.snd = (layout.regions config source).1.regions := by
  let extractions := (source.readEach (MappedRange.extract layout.domain config.maxRegionBytes) layout.code.2).1
  have lengths : extractions.length = layout.code.2.length := Source.length_readEach _ _ _
  have regions : (layout.regions config source).1.regions = extractions.filterMap Extraction.region := rfl
  rw [regions, ← List.map_snd_zip (Nat.le_of_eq lengths), List.filterMap_map, excerpts, List.map_filterMap]
  congr 1
  funext pair
  simp only [Function.comp, Option.map_map]
  exact Option.map_id'

/-- Ranges that are disjoint give regions of disjoint ranges. -/
theorem excerpts_disjoint (disjoint : layout.code.2.Pairwise MappedRange.Disjoint) :
    (layout.excerpts config source).Pairwise fun first second => first.1.Disjoint second.1 := by
  let extractions := (source.readEach (MappedRange.extract layout.domain config.maxRegionBytes) layout.code.2).1
  have lengths : layout.code.2.length = extractions.length := (Source.length_readEach _ _ _).symm
  have ranges : (layout.code.2.zip extractions).map Prod.fst = layout.code.2 := List.map_fst_zip (Nat.le_of_eq lengths)
  rw [← ranges, List.pairwise_map] at disjoint
  refine disjoint.filterMap _ fun pair other apart => ?_
  rintro _ found _ also
  obtain ⟨_, _, rfl⟩ := Option.map_eq_some_iff.mp found
  obtain ⟨_, _, rfl⟩ := Option.map_eq_some_iff.mp also
  exact apart

variable {layout config source}

theorem excerpt_yields {range : MappedRange} {region : Region} (listed : (range, region) ∈ layout.excerpts config source) :
    range ∈ layout.code.2 ∧ ∃ offset, range.Yields source.content layout.domain offset region := by
  obtain ⟨⟨read, extraction⟩, member, found⟩ := List.mem_filterMap.mp listed
  obtain ⟨region, given, same⟩ := Option.map_eq_some_iff.mp found
  cases same
  obtain ⟨chosen, turn, content, rfl⟩ :=
    Source.mem_zip_readEach (MappedRange.content_extract layout.domain config.maxRegionBytes) member
  obtain ⟨offset, yields⟩ := MappedRange.extract_yields given
  exact ⟨chosen, offset, content ▸ yields⟩

/-- A region and the range that it was read from stand at the same place. -/
theorem excerpt_at {place : Nat} {region : Region}
    (listed : (layout.regions config source).1.regions[place]? = some region) :
    ∃ range, (layout.excerpts config source)[place]? = some (range, region) := by
  rw [← excerpts_regions, List.getElem?_map, Option.map_eq_some_iff] at listed
  obtain ⟨⟨range, _⟩, found, rfl⟩ := listed
  exact ⟨range, found⟩

theorem region_at {place : Nat} {range : MappedRange} {region : Region}
    (listed : (layout.excerpts config source)[place]? = some (range, region)) :
    (layout.regions config source).1.regions[place]? = some region := by
  rw [← excerpts_regions, List.getElem?_map, listed]
  rfl

/-- Where the ranges that hold code are disjoint, and written as addresses of the domain, a byte of a
region is found by its address. -/
theorem locate_excerpt (disjoint : layout.code.2.Pairwise MappedRange.Disjoint)
    (reduced : ∀ range ∈ layout.code.2, layout.domain.normalize range.base = range.base) {place : Nat}
    {range : MappedRange} {region : Region} (listed : (layout.excerpts config source)[place]? = some (range, region))
    {address : UInt64} {delta : Nat} (inside : region.offset? address = some delta) :
    locate (layout.regions config source).1.regions address = some ⟨place, delta⟩ := by
  have lies {place : Nat} {range : MappedRange} {region : Region} {delta : Nat}
      (listed : (layout.excerpts config source)[place]? = some (range, region))
      (inside : region.offset? address = some delta) : range.contains address = true := by
    obtain ⟨chosen, _, yields⟩ := excerpt_yields (List.mem_of_getElem? listed)
    exact yields.contains (reduced range chosen) inside
  refine FirstAt.locate ⟨region_at listed, inside, ?_⟩
  intro earlier before other present
  obtain ⟨neighbour, found⟩ := excerpt_at present
  cases shared : other.offset? address with
  | none => rfl
  | some =>
    obtain ⟨first, early⟩ := List.getElem?_eq_some_iff.mp found
    obtain ⟨second, late⟩ := List.getElem?_eq_some_iff.mp listed
    have apart := List.pairwise_iff_getElem.mp (layout.excerpts_disjoint config source disjoint) earlier place first
      second before
    rw [early, late] at apart
    exact absurd ⟨lies found shared, lies listed inside⟩ (apart address)

end Layout

end IsaCensus
