import IsaCensus.Proofs.Excerpts
import IsaCensus.Seed.Sources

/-! Symbols of object files that were not linked. A symbol is counted from its section, and what is
offered for it is an address, which does not name the section any more. The linker has not yet given
the sections their places, so they may all stand at zero: the address then belongs to the first of
them that holds it. -/

namespace IsaCensus.Layout

variable {layout : Layout} {symbol : Symbol} {index : Nat} {range : MappedRange}

/-- A function that is defined in the section of this number, and not at zero. -/
structure DefinesFunction (symbol : Symbol) (index : Nat) : Prop where
  kind : symbol.kind = .function
  defined : symbol.isDefined = true
  nonzero : symbol.value ≠ 0
  placed : symbol.sectionIndex = some index

theorem symbolSeed_of_unlinked (elf : layout.format = .elf) (unlinked : layout.segments = [])
    (function : DefinesFunction symbol index) (named : layout.sectionAt? index = some range) :
    layout.symbolSeed? symbol = some (symbol.value + range.base) := by
  obtain ⟨kind, defined, nonzero, placed⟩ := function
  have relative : layout.symbolsAreSectionRelative = true := by
    rw [symbolsAreSectionRelative, elf, unlinked]
    rfl
  have sound : (guard (symbol.kind = .function ∧ symbol.isDefined ∧ symbol.value ≠ 0) : Option Unit) = some () :=
    if_pos ⟨kind, defined, nonzero⟩
  have address : layout.symbolAddress symbol index = symbol.value + range.base := by
    rw [symbolAddress, if_pos relative, named]
    rfl
  rw [symbolSeed?, sound, placed]
  exact congrArg some address

theorem symbolSeed_offered (listed : symbol ∈ layout.symbols) {address : UInt64}
    (seed : layout.symbolSeed? symbol = some address) : address ∈ (layout.symbolOffer symbol.table).candidates := by
  refine List.mem_filterMap.mpr ⟨symbol, ?_, seed⟩
  exact List.mem_filter.mpr ⟨listed, beq_self_eq_true symbol.table⟩

variable {config : Config} {source : Source} {place : Nat} {region : Region}

theorem normalize_of_elf (elf : layout.format = .elf) (address : UInt64) :
    layout.domain.normalize address = address := by
  rw [domain, elf]
  rfl

/-- A region holds the sum of its base and an offset, unless the sum goes around the address space. -/
theorem sum_held_iff (elf : layout.format = .elf) (read : (layout.excerpts config source)[place]? = some (range, region))
    {value : UInt64} (inside : value.toNat < region.length) :
    region.offset? (value + range.base) = some value.toNat ↔ range.base.toNat + value.toNat < UInt64.size := by
  obtain ⟨_, _, yields⟩ := excerpt_yields (List.mem_of_getElem? read)
  have wrapped : (value + range.base).toNat = (value.toNat + range.base.toNat) % UInt64.size :=
    UInt64.toNat_add value range.base
  rw [yields.offset_iff (normalize_of_elf elf _)]
  constructor
  · rintro ⟨counted, _⟩
    exact counted ▸ (value + range.base).toNat_lt
  · intro fits
    rw [Nat.mod_eq_of_lt (by omega)] at wrapped
    exact ⟨by omega, inside⟩

/-- A function symbol of a file that was not linked leads into its own section as far as addresses
can tell. What is offered for it is the sum of its value and the base of the section. If the sum does
not go around the address space and the section was read as a whole, the sum resolves to the first
region that holds it. This is the function's place in its section just if no region before that of
the section holds the sum, which is so whenever the sections that hold code are disjoint. -/
theorem symbols_seed_first_holder (layout : Layout) (config : Config) (source : Source)
    (elf : layout.format = .elf) (unlinked : layout.segments = []) (listed : symbol ∈ layout.symbols)
    (function : DefinesFunction symbol index) (named : layout.sectionAt? index = some range)
    (read : (layout.excerpts config source)[place]? = some (range, region))
    (whole : region.length = range.length.toNat) (inside : symbol.value < range.length) :
    let space : Space := ⟨layout.domain, (layout.regions config source).1.regions⟩
    let address := symbol.value + range.base
    layout.symbolSeed? symbol = some address ∧ address ∈ (layout.symbolOffer symbol.table).candidates ∧
    (space.resolve address = some ⟨place, symbol.value.toNat⟩ ↔
      range.base.toNat + symbol.value.toNat < UInt64.size ∧
        ∀ earlier < place, ∀ other, space.regions[earlier]? = some other → other.offset? address = none) ∧
    (range.base.toNat + symbol.value.toNat < UInt64.size →
      (∃ location holder, space.resolve address = some location ∧
        FirstAt space.regions address location holder ∧ location.region ≤ place) ∧
      (layout.code.2.Pairwise MappedRange.Disjoint →
        space.resolve address = some ⟨place, symbol.value.toNat⟩)) := by
  intro space address
  have seed := symbolSeed_of_unlinked elf unlinked function named
  have small : symbol.value.toNat < region.length := whole ▸ UInt64.lt_iff_toNat_lt.mp inside
  have placed := region_at read
  have resolve : space.resolve address = locate space.regions address :=
    congrArg (locate space.regions) (normalize_of_elf elf address)
  have held := sum_held_iff elf read small
  refine ⟨seed, symbolSeed_offered listed seed, ?_, fun fits => ⟨?_, fun disjoint => ?_⟩⟩
  · rw [resolve, locate_eq_some_iff placed, held]
  · cases found : locate space.regions address with
    | none =>
      have outside := locate_eq_none.mp found region (List.mem_of_getElem? placed)
      cases (held.mpr fits).symm.trans outside
    | some location =>
      obtain ⟨holder, first⟩ := locate_first found
      refine ⟨location, holder, resolve.trans found, first, Nat.le_of_not_lt fun behind => ?_⟩
      cases (held.mpr fits).symm.trans (first.earlier place behind region placed)
  · rw [resolve]
    exact locate_excerpt disjoint (fun range _ => normalize_of_elf elf range.base) read (held.mpr fits)

/-- Two sections of an object file, which begin at one address. -/
def unlinkedText : MappedRange :=
  { label := ".text", index := 1, fileOffset := some 0, length := 2, permissions.execute := true }

def unlinkedCold : MappedRange :=
  { label := ".text.unlikely", index := 2, fileOffset := some 2, length := 2, permissions.execute := true }

/-- The second byte of the second section. -/
def coldSymbol : Symbol := { table := ".symtab", value := 1, sectionIndex := some 2, kind := .function }

def unlinkedLayout : Layout where
  format := .elf
  architecture := .x86_64
  sections := [unlinkedText, unlinkedCold]
  symbols := [coldSymbol]

def unlinkedFile : Bytes := #[0x01, 0x0a, 0x01, 0x02]

def coldRegion : Region := { label := ".text.unlikely", base := 0, bytes := #[0x01, 0x02] }

/-- The symbol leads into the first section. -/
theorem symbol_in_other_section :
    unlinkedLayout.format = .elf ∧ unlinkedLayout.segments = [] ∧ coldSymbol ∈ unlinkedLayout.symbols ∧
    DefinesFunction coldSymbol 2 ∧ unlinkedLayout.sectionAt? 2 = some unlinkedCold ∧
    (unlinkedLayout.excerpts {} (.memory unlinkedFile))[1]? = some (unlinkedCold, coldRegion) ∧
    coldRegion.length = unlinkedCold.length.toNat ∧ coldSymbol.value < unlinkedCold.length ∧
    unlinkedLayout.symbolSeed? coldSymbol = some 1 ∧
    Space.resolve ⟨.va64, (unlinkedLayout.regions {} (.memory unlinkedFile)).1.regions⟩ 1 = some ⟨0, 1⟩ :=
  ⟨rfl, rfl, List.mem_singleton_self _, ⟨rfl, rfl, by decide, rfl⟩, by decide, by decide +kernel, rfl, by decide,
    by decide, by decide +kernel⟩

/-- The second section begins inside of the first one, and ends behind it. -/
def staggeredCold : MappedRange := { unlinkedCold with base := 1 }

def staggeredLayout : Layout := { unlinkedLayout with sections := [unlinkedText, staggeredCold] }

def staggeredRegion : Region := { coldRegion with base := 1 }

/-- The symbol stands behind the first section, so that it leads into its own. -/
theorem staggered_symbol_resolves :
    (staggeredLayout.format = .elf ∧ staggeredLayout.segments = [] ∧ coldSymbol ∈ staggeredLayout.symbols ∧
      DefinesFunction coldSymbol 2 ∧ staggeredLayout.sectionAt? 2 = some staggeredCold ∧
      (staggeredLayout.excerpts {} (.memory unlinkedFile))[1]? = some (staggeredCold, staggeredRegion) ∧
      staggeredRegion.length = staggeredCold.length.toNat ∧ coldSymbol.value < staggeredCold.length ∧
      staggeredCold.base.toNat + coldSymbol.value.toNat < UInt64.size) ∧
    staggeredLayout.symbolSeed? coldSymbol = some 2 ∧
    Space.resolve ⟨.va64, (staggeredLayout.regions {} (.memory unlinkedFile)).1.regions⟩ 2 = some ⟨1, 1⟩ := by
  have listed : coldSymbol ∈ staggeredLayout.symbols := List.mem_singleton_self _
  have function : DefinesFunction coldSymbol 2 := ⟨rfl, rfl, by decide, rfl⟩
  have named : staggeredLayout.sectionAt? 2 = some staggeredCold := by decide
  have read : (staggeredLayout.excerpts {} (.memory unlinkedFile))[1]? = some (staggeredCold, staggeredRegion) := by
    decide +kernel
  obtain ⟨seed, _, resolves, _⟩ := symbols_seed_first_holder staggeredLayout {} (.memory unlinkedFile) rfl rfl listed
    function named read rfl (by decide)
  refine ⟨⟨rfl, rfl, listed, function, named, read, rfl, by decide, by decide⟩, seed, resolves.mpr ⟨by decide, ?_⟩⟩
  intro earlier before other present
  have first : (staggeredLayout.regions {} (.memory unlinkedFile)).1.regions[0]? =
      some { label := ".text", base := 0, bytes := #[0x01, 0x0a] } := by decide +kernel
  cases Nat.lt_one_iff.mp before
  cases first.symm.trans present
  decide

end IsaCensus.Layout
