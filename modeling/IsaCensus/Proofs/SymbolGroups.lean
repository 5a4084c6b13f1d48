import Mathlib.Data.List.Perm.Basic
import IsaCensus.Proofs.SeedIsolation

/-! Symbols grouped by their tables. The list of symbols is gone through once for the names of the
tables and once more for each name. However the tables are mixed in the list, every name comes up
once, where it occurs first, and every symbol that seeds is offered once, under its own table. -/

namespace IsaCensus

section Grouping
variable {α β : Type} [DecidableEq β]

/-- Items that are picked out key by key are the items that have one of the keys. -/
theorem groups_perm {keys : List β} (distinct : keys.Nodup) (items : List α) (key : α → β) :
    (keys.flatMap fun k => items.filter fun item => key item == k).Perm
      (items.filter fun item => decide (key item ∈ keys)) := by
  induction keys with
  | nil => simp
  | cons k keys ih =>
    obtain ⟨new, distinct⟩ := List.nodup_cons.mp distinct
    -- The key goes to the first group and to no other, so the items of the first group are split off.
    have split := List.filter_append_perm (fun item => key item == k)
      (items.filter fun item => decide (key item ∈ k :: keys))
    have group : (items.filter fun item => decide (key item ∈ k :: keys)).filter (fun item => key item == k) =
        items.filter fun item => key item == k := by
      rw [List.filter_filter]
      congr 1
      funext item
      by_cases same : key item = k <;> simp [same]
    have others : (items.filter fun item => decide (key item ∈ k :: keys)).filter (fun item => !key item == k) =
        items.filter fun item => decide (key item ∈ keys) := by
      rw [List.filter_filter]
      congr 1
      funext item
      by_cases same : key item = k
      · simp [same, new]
      · simp [same]
    rw [group, others] at split
    rw [List.flatMap_cons]
    exact ((ih distinct).append_left _).trans split

end Grouping

/-- Each offer has an account of its own, under its name and with all of its candidates. -/
theorem Space.accountsBehind_listed (space : Space) (past : List UInt64) (offers : List Offer) :
    (space.accountsBehind past offers).map (fun account => (account.name, account.candidates)) =
      offers.map fun offer => (offer.name, offer.candidates.length) := by
  apply List.ext_getElem
  · rw [List.length_map, List.length_map, accountsBehind, List.length_mapIdx]
  · intro place _ _
    simp only [accountsBehind, List.getElem_map, List.getElem_mapIdx, account, Offer.addresses, List.length_map]

/-- The symbol is a function that is defined in a numbered section, and its value is not zero. -/
def Symbol.Seeds (symbol : Symbol) : Prop :=
  symbol.kind = .function ∧ symbol.isDefined ∧ symbol.value ≠ 0 ∧ symbol.sectionIndex.isSome

instance : DecidablePred Symbol.Seeds := fun _ => inferInstanceAs (Decidable (_ ∧ _))

namespace Layout

/-- The base of the first section of the number that a symbol names, or zero. -/
def sectionBase (layout : Layout) (symbol : Symbol) : UInt64 :=
  match layout.sections.find? (fun range => some range.index == symbol.sectionIndex) with
  | some range => range.base
  | none => 0

/-- What a symbol stands for. In an object file that was not linked, it is counted from its section. -/
def symbolPlace (layout : Layout) (symbol : Symbol) : UInt64 :=
  if layout.format = .elf ∧ layout.segments = [] then symbol.value + layout.sectionBase symbol else symbol.value

/-- One offer for every name of a table, in the order in which the symbols first use the names. Under
each name are the places of the symbols of that table that seed, in their order. -/
structure Groups (layout : Layout) (offers : List Offer) : Prop where
  named : ∀ table, table ∈ offers.map Offer.name ↔ ∃ symbol ∈ layout.symbols, symbol.table = table
  once : (offers.map Offer.name).Nodup
  ordered : (offers.map Offer.name).Pairwise fun first second =>
    (layout.symbols.map Symbol.table).idxOf first < (layout.symbols.map Symbol.table).idxOf second
  candidates : ∀ offer ∈ offers, offer.candidates =
    (layout.symbols.filter fun symbol => symbol.table = offer.name ∧ symbol.Seeds).map layout.symbolPlace
  complete : (offers.flatMap Offer.candidates).Perm
    ((layout.symbols.filter fun symbol => symbol.Seeds).map layout.symbolPlace)

variable {layout : Layout}

theorem symbolAddress_eq {symbol : Symbol} {index : Nat} (placed : symbol.sectionIndex = some index) :
    layout.symbolAddress symbol index = layout.symbolPlace symbol := by
  have base : ((layout.sectionAt? index).map MappedRange.base).getD 0 = layout.sectionBase symbol := by
    rw [sectionAt?, sectionBase, placed]
    simp only [Option.some_beq_some]
    cases layout.sections.find? (·.index == index) <;> rfl
  have relative : layout.symbolsAreSectionRelative = true ↔ layout.format = .elf ∧ layout.segments = [] := by
    rw [symbolsAreSectionRelative, Bool.and_eq_true, beq_iff_eq, List.isEmpty_iff]
  simp only [symbolAddress, symbolPlace, base, relative]

theorem symbolSeed_eq (layout : Layout) (symbol : Symbol) :
    layout.symbolSeed? symbol = if symbol.Seeds then some (layout.symbolPlace symbol) else none := by
  by_cases function : symbol.kind = .function ∧ symbol.isDefined ∧ symbol.value ≠ 0
  · have sound : (guard (symbol.kind = .function ∧ symbol.isDefined ∧ symbol.value ≠ 0) : Option Unit) = some () :=
      if_pos function
    obtain ⟨kind, defined, nonzero⟩ := function
    rw [symbolSeed?, sound]
    cases placed : symbol.sectionIndex with
    | none =>
      have nowhere : ¬symbol.Seeds := by
        rintro ⟨_, _, _, numbered⟩
        rw [placed] at numbered
        cases numbered
      rw [if_neg nowhere]
      rfl
    | some index =>
      have seeds : symbol.Seeds := ⟨kind, defined, nonzero, Option.isSome_iff_exists.mpr ⟨index, placed⟩⟩
      rw [if_pos seeds]
      exact congrArg some (symbolAddress_eq placed)
  · have unfit : ¬symbol.Seeds := by
      rintro ⟨kind, defined, nonzero, _⟩
      exact function ⟨kind, defined, nonzero⟩
    rw [if_neg unfit, symbolSeed?, guard, if_neg function]
    rfl

theorem symbolSeeds_eq (layout : Layout) (symbols : List Symbol) : symbols.filterMap layout.symbolSeed? =
    (symbols.filter fun symbol => symbol.Seeds).map layout.symbolPlace := by
  induction symbols with
  | nil => rfl
  | cons symbol rest ih =>
    by_cases seeds : symbol.Seeds
    · have seed := (layout.symbolSeed_eq symbol).trans (if_pos seeds)
      rw [List.filterMap_cons_some seed, ih, List.filter_cons, if_pos (decide_eq_true seeds), List.map_cons]
    · have seedless := (layout.symbolSeed_eq symbol).trans (if_neg seeds)
      rw [List.filterMap_cons_none seedless, ih, List.filter_cons, if_neg (mt of_decide_eq_true seeds)]

theorem symbolTables_eq (layout : Layout) : layout.symbolTables = (layout.symbols.map Symbol.table).eraseDups := by
  rw [symbolTables]
  induction layout.symbols using List.reverseRecOn with
  | nil => rfl
  | append_singleton past symbol ih =>
    rw [List.foldl_append, ih, List.map_append, List.map_singleton, eraseDups_concat]
    simp only [List.foldl_cons, List.foldl_nil, List.mem_eraseDups]

theorem symbolOffers_grouped (layout : Layout) : layout.Groups (layout.symbolTables.map layout.symbolOffer) := by
  have names : (layout.symbolTables.map layout.symbolOffer).map Offer.name =
      (layout.symbols.map Symbol.table).eraseDups := by
    rw [List.map_map, ← symbolTables_eq]
    exact List.map_id _
  have tabled (symbol : Symbol) (listed : symbol ∈ layout.symbols) : symbol.table ∈ layout.symbolTables := by
    rw [symbolTables_eq, List.mem_eraseDups]
    exact List.mem_map_of_mem listed
  constructor
  · intro table
    rw [names, List.mem_eraseDups, List.mem_map]
  · rw [names]
    exact eraseDups_distinct _
  · rw [names]
    exact eraseDups_ordered _
  · intro offer offered
    obtain ⟨table, _, rfl⟩ := List.mem_map.mp offered
    rw [symbolOffer, symbolSeeds_eq, List.filter_filter]
    refine congrArg (List.map layout.symbolPlace) (List.filter_congr fun symbol _ => ?_)
    rw [Bool.and_comm, Bool.decide_and, Bool.beq_eq_decide_eq]
  · have distinct : layout.symbolTables.Nodup := by
      rw [symbolTables_eq]
      exact eraseDups_distinct _
    have covered : (layout.symbols.filter fun symbol => symbol.Seeds).filter
        (fun symbol => decide (symbol.table ∈ layout.symbolTables)) =
          layout.symbols.filter fun symbol => symbol.Seeds := by
      refine List.filter_eq_self.mpr fun symbol seeds => ?_
      exact decide_eq_true (tabled symbol (List.mem_filter.mp seeds).1)
    have groups := groups_perm distinct (layout.symbols.filter fun symbol => symbol.Seeds) Symbol.table
    rw [covered] at groups
    have places := groups.map layout.symbolPlace
    rw [List.map_flatMap] at places
    rw [List.flatMap_map]
    simpa only [symbolOffer, symbolSeeds_eq, List.filter_comm] using places

theorem Groups.total {offers : List Offer} (groups : layout.Groups offers) :
    (offers.map fun offer => offer.candidates.length).sum = layout.symbols.countP fun symbol => symbol.Seeds := by
  rw [← List.length_flatMap, groups.complete.length_eq, List.length_map, List.countP_eq_length_filter]

/-- Between the arrays of pointers and the tables of the unwinder there is one source of seeds for
every table that a symbol names, also if nothing in the table seeds. Taken together, these sources
count as many candidates as there are symbols that seed. -/
theorem symbols_grouped (layout : Layout) (config : Config) (regions : List Region) (source : Source)
    (enabled : config.sources.symbols = true) :
    ∃ before offers after,
      (layout.readings config source).1.map Reading.offer = before ++ offers ++ after ∧
      before.length = 1 + (layout.enabledArrays config).length ∧
      after.length = (layout.enabledTables config).length + (extraReadings config).length ∧
      layout.Groups offers ∧
      ∃ first recorded last,
        (layout.seeds config regions source).1.set.summary.sources = first ++ recorded ++ last ∧
        first.length = before.length ∧ last.length = after.length ∧
        recorded.map (fun account => (account.name, account.candidates)) =
          offers.map (fun offer => (offer.name, offer.candidates.length)) ∧
        (recorded.map SeedSource.candidates).sum = layout.symbols.countP fun symbol => symbol.Seeds := by
  let arrays := source.readEach (PointerArray.reading layout config) (layout.enabledArrays config)
  let tables := arrays.2.readEach (UnwindTable.reading layout config) (layout.enabledTables config)
  let before := ⟨"entry_point", [layout.entry]⟩ :: arrays.1.map Reading.offer
  let offers := layout.symbolTables.map layout.symbolOffer
  let after := (tables.1 ++ extraReadings config).map Reading.offer
  let space : Space := ⟨layout.domain, regions⟩
  have symbols : (layout.enabledSymbols config).map Reading.offer = offers := by
    rw [enabledSymbols, if_pos enabled, List.map_map]
    exact List.map_id _
  have offered : (layout.readings config source).1.map Reading.offer = before ++ offers ++ after := by
    rw [readings_eq, ← symbols]
    simp only [before, after, List.map_append, List.map_cons, List.append_assoc, List.cons_append]
    rfl
  have recorded : (layout.seeds config regions source).1.set.summary.sources = space.accounts before ++
      space.accountsBehind (space.offered before) offers ++
        space.accountsBehind (space.offered (before ++ offers)) after := by
    rw [← Space.accounts_append, ← Space.accounts_append, ← offered]
    exact SeedSet.collect_sources space _
  have listed := space.accountsBehind_listed (space.offered before) offers
  have counts := congrArg (List.map Prod.snd) listed
  rw [List.map_map, List.map_map] at counts
  have groups := layout.symbolOffers_grouped
  refine ⟨before, offers, after, offered, ?_, ?_, groups, _, _, _, recorded, ?_, ?_, listed, ?_⟩
  · rw [List.length_cons, List.length_map, Source.length_readEach, Nat.add_comm]
  · rw [List.length_map, List.length_append, Source.length_readEach]
  · exact List.length_mapIdx
  · exact List.length_mapIdx
  · exact (congrArg List.sum counts).trans groups.total

/-- Two tables whose symbols are mixed, and a third without functions. Of the symbols that seed, one
is in a section that does not exist, and one goes around the address space. -/
def mixedLayout : Layout where
  format := .elf
  architecture := .x86_64
  sections := [{ label := ".text", index := 1, base := 0x10, length := 2 }]
  symbols := [
    { table := ".symtab", value := 1, sectionIndex := some 1, kind := .function },
    { table := ".dynsym", value := 2, sectionIndex := some 1, kind := .function },
    { table := ".symtab", value := 3, sectionIndex := some 9, kind := .function },
    { table := ".debug", value := 4, sectionIndex := some 1, kind := .other },
    { table := ".dynsym", value := 0xffffffffffffffff, sectionIndex := some 1, kind := .function },
    { table := ".symtab", value := 5, kind := .function }]

/-- Each of the two tables has two candidates, which are all the symbols that seed. -/
theorem mixedLayout_grouped :
    mixedLayout.Groups [⟨".symtab", [0x11, 3]⟩, ⟨".dynsym", [0x12, 0xf]⟩, ⟨".debug", []⟩] ∧
    ∃ first recorded last,
      (mixedLayout.seeds {} [] (.memory #[])).1.set.summary.sources = first ++ recorded ++ last ∧
      first.length = 1 ∧ last.length = 1 ∧
      recorded.map (fun account => (account.name, account.candidates)) =
        [(".symtab", 2), (".dynsym", 2), (".debug", 0)] ∧
      (recorded.map SeedSource.candidates).sum = 4 := by
  obtain ⟨before, offers, after, offered, ahead, behind, groups, first, recorded, last, sources, fore, aft, listed,
    total⟩ := symbols_grouped mixedLayout {} [] (.memory #[]) rfl
  have readings : (mixedLayout.readings {} (.memory #[])).1.map Reading.offer = [⟨"entry_point", [0]⟩] ++
      [⟨".symtab", [0x11, 3]⟩, ⟨".dynsym", [0x12, 0xf]⟩, ⟨".debug", []⟩] ++ [⟨"extra_entry_points", []⟩] := by
    decide
  obtain ⟨front, _⟩ := List.append_inj' (offered.symm.trans readings) behind
  obtain ⟨_, rfl⟩ := List.append_inj front ahead
  exact ⟨groups, first, recorded, last, sources, fore.trans ahead, aft.trans behind, listed, total⟩

end Layout

end IsaCensus
