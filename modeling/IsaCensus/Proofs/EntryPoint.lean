import IsaCensus.Proofs.SeedIsolation
import IsaCensus.Proofs.TraversalReach
import IsaCensus.Proofs.X86Laws

/-! The entry point as the seed that is always there. It is offered before anything else, so no
other source can take its place or be the first to name it, whatever becomes of that source; it is
on top of the stack when the traversal begins; and unless the traversal is stopped before it has
decoded anything, what it decodes first is the instruction at the entry point. -/

namespace IsaCensus

/-- The first seed is this address, known from a source of one candidate that comes first. -/
structure SeedSet.LedBy (set : SeedSet) (name : String) (address : UInt64) : Prop where
  first : set.addresses.head? = some address
  origin : set.originOf? address = some name
  account : set.summary.sources.head? = some { name, candidates := 1, added := 1 }
  accepted : 1 ≤ set.summary.accepted

namespace Space

variable {space : Space} {candidate : UInt64}

theorem accepted_led (admitted : space.admits (space.domain.normalize candidate) = true) (name : String)
    (others : List Offer) : ∃ rest, space.accepted (space.offered (⟨name, [candidate]⟩ :: others)) =
      space.domain.normalize candidate :: rest := by
  have alone : space.accepted [space.domain.normalize candidate] = [space.domain.normalize candidate] := by
    rw [accepted, List.filter_cons_of_pos admitted]
    rfl
  refine ⟨space.fresh [space.domain.normalize candidate] (space.offered others), ?_⟩
  have parts := space.accepted_append [space.domain.normalize candidate] (space.offered others)
  rw [alone] at parts
  exact parts

theorem account_led (admitted : space.admits (space.domain.normalize candidate) = true) (name : String) :
    space.account [] ⟨name, [candidate]⟩ = { name, candidates := 1, added := 1 } := by
  have verdict : space.verdict [] (space.domain.normalize candidate) = .accepted :=
    verdict_accepted.mpr ⟨List.not_mem_nil, admits_iff.mp admitted⟩
  rw [account_eq_foldl]
  simp only [Offer.addresses, List.map_singleton, verdicts, verdict]
  rfl

end Space

theorem SeedSet.collect_led {space : Space} {candidate : UInt64}
    (admitted : space.admits (space.domain.normalize candidate) = true) (name : String) (others : List Offer) :
    (collect space (⟨name, [candidate]⟩ :: others)).LedBy name (space.domain.normalize candidate) := by
  obtain ⟨rest, accepted⟩ := Space.accepted_led admitted name others
  have addresses := (collect_addresses space (⟨name, [candidate]⟩ :: others)).trans accepted
  constructor
  · rw [addresses, List.head?_cons]
  · have listed : space.domain.normalize candidate ∈ (collect space (⟨name, [candidate]⟩ :: others)).addresses := by
      rw [addresses]
      exact List.mem_cons_self
    have named : (Offer.addresses space.domain ⟨name, [candidate]⟩).contains (space.domain.normalize candidate) =
        true := List.contains_iff_mem.mpr (List.mem_singleton_self _)
    have earliest : List.find? (fun offer => (Offer.addresses space.domain offer).contains
        (space.domain.normalize candidate)) (⟨name, [candidate]⟩ :: others) = some ⟨name, [candidate]⟩ :=
      List.find?_cons_of_pos named
    rw [collect_origin, if_pos listed, earliest]
    rfl
  · rw [collect_sources, Space.accounts, List.mapIdx_cons, List.head?_cons]
    exact congrArg some (Space.account_led admitted name)
  · rw [collect_accepted, collect_added, addresses, List.length_cons]
    exact Nat.succ_pos rest.length

variable {κ φ : Type} {setting : Setting κ φ}

/-- A traversal whose first seed resolves is stopped before it decodes anything: at the first look at its
token, at the second, or because it may not decode at all. -/
def Setting.Forestalled (setting : Setting κ φ) : Prop :=
  (∃ polls < 2, setting.control.cancelled ⟨polls, 0, 0⟩ = true) ∨ setting.budget = some 0

namespace Traversal

variable [DecidableEq φ] {seed : UInt64} {location : Location}

/-- With the first step the first seed is taken and its place is looked up. -/
theorem first_ahead (rest : List UInt64) (lawful : setting.decoder.Lawful)
    (found : setting.space.resolve (normalize setting seed) = some location)
    (clear : setting.control.cancelled ⟨0, 0, 0⟩ = false) :
    ∃ call : Call κ, call.address = normalize setting seed ∧ call.InPlace lawful.toTracked ∧
      (moment setting (seed :: rest) 1).ahead? setting = some call ∧
      (moment setting (seed :: rest) 1).clock = ⟨1, 0, 0⟩ ∧
      (moment setting (seed :: rest) 1).visited = {} ∧ (moment setting (seed :: rest) 1).trace = #[] := by
  obtain ⟨region, first⟩ := Space.resolve_first found
  have inside := Region.offset_lt first.inside
  obtain ⟨cursor, position, held, stands⟩ :=
    (State.Placed.initial lawful.toTracked (seed :: rest)).held first.listed
  have accepted := (lawful.seek_accepts location.offset stands).mpr inside
  have moved := lawful.seek_moves stands inside
  have step : moment setting (seed :: rest) 1 = _ := (moment_succ setting (seed :: rest) 0).trans
    (State.step_of_start setting rfl clear rfl Std.HashSet.not_mem_empty found held accepted)
  refine ⟨⟨location.region, normalize setting seed, (setting.decoder.seek cursor location.offset).2⟩, rfl, ?_, ?_, ?_⟩
  · apply Call.InPlace.of_resolve (Domain.normalize_normalize _ _) found
    intro holder listed
    cases first.listed.symm.trans listed
    exact moved
  · rw [step]
    refine (State.ahead_eq_some setting).mpr ⟨rfl, ?_, (lawful.hasRemaining_iff moved).mpr inside⟩
    rw [Array.getElem?_setIfInBounds_self]
    exact if_pos (Array.getElem?_eq_some_iff.mp held).1
  · rw [step]
    exact ⟨rfl, rfl, rfl⟩

theorem trace_of_halt {seeds : List UInt64} {time : Nat} {outcome : Outcome}
    (halt : (moment setting seeds time).Halt setting outcome) (early : (moment setting seeds time).trace = #[]) :
    (traverse setting seeds).trace = [] := by
  rw [traverse_of_halt setting halt, early]

theorem trace_of_forestalled (rest : List UInt64) (lawful : setting.decoder.Lawful)
    (found : setting.space.resolve (normalize setting seed) = some location) (forestalled : setting.Forestalled) :
    (traverse setting (seed :: rest)).trace = [] := by
  cases clear : setting.control.cancelled ⟨0, 0, 0⟩ with
  | true =>
    have asks : (moment setting (seed :: rest) 0).Asks setting := .inl rfl
    exact trace_of_halt (.cancelled asks clear) rfl
  | false =>
    obtain ⟨call, _, _, ahead, clock, _, early⟩ := first_ahead rest lawful found clear
    cases still : setting.control.cancelled ⟨1, 0, 0⟩ with
    | true => exact trace_of_halt (.cancelled (State.asks_of_ahead setting ahead) (clock ▸ still)) early
    | false =>
      rcases forestalled with ⟨polls, few, token⟩ | empty
      · have one : polls = 0 ∨ polls = 1 := by omega
        rcases one with rfl | rfl
        · cases clear.symm.trans token
        · cases still.symm.trans token
      · have spent := (State.exhausted_eq_true setting).mpr
          ⟨0, empty, Nat.zero_le (moment setting (seed :: rest) 1).totals.instructions⟩
        exact trace_of_halt (.exhausted ahead (clock ▸ still) spent) early

theorem first_decoded (rest : List UInt64) (lawful : setting.decoder.Lawful)
    (found : setting.space.resolve (normalize setting seed) = some location) (free : ¬ setting.Forestalled) :
    ∃ visit, (traverse setting (seed :: rest)).trace.head? = some visit ∧
      visit.instruction.address = normalize setting seed ∧
      lawful.instructionAt? setting.space (normalize setting seed) = some visit.instruction := by
  have clear {polls : Nat} (few : polls < 2) : setting.control.cancelled ⟨polls, 0, 0⟩ = false := by
    by_contra token
    exact free (.inl ⟨polls, few, by simpa using token⟩)
  obtain ⟨call, address, placed, ahead, clock, fresh, early⟩ := first_ahead rest lawful found (clear Nat.two_pos)
  have within : State.exhausted setting (moment setting (seed :: rest) 1) = false := by
    by_contra spent
    obtain ⟨limit, limited, reached⟩ := (State.exhausted_eq_true setting).mp (by simpa using spent)
    have none : (moment setting (seed :: rest) 1).totals.instructions = 0 := congrArg Clock.decoded clock
    rw [none, Nat.le_zero] at reached
    exact free (.inr (reached ▸ limited))
  have unseen : call.address ∉ (moment setting (seed :: rest) 1).visited := by
    rw [fresh]
    exact Std.HashSet.not_mem_empty
  have called := (State.call_eq_some setting).mpr ⟨ahead, clock ▸ clear Nat.one_lt_two, within, unseen⟩
  have listed := (called_iff setting).mpr ⟨1, called, congrArg Array.size early⟩
  refine ⟨call.visit setting, ?_, placed.instruction_address.trans address, address ▸ placed.read⟩
  rw [trace_calls, List.head?_map, List.head?_eq_getElem?]
  exact congrArg (Option.map _) listed

/-- A traversal whose first seed resolves decodes there first, if it decodes anything. -/
theorem begins_at_first_seed (setting : Setting κ φ) (lawful : setting.decoder.Lawful) {seeds : List UInt64}
    (first : seeds.head? = some seed) (inside : setting.space.contains seed = true) :
    (∀ visit ∈ (traverse setting seeds).trace.head?, visit.instruction.address = normalize setting seed ∧
      lawful.instructionAt? setting.space (normalize setting seed) = some visit.instruction) ∧
    ((traverse setting seeds).trace = [] ↔ setting.Forestalled) := by
  obtain ⟨rest, rfl⟩ := List.head?_eq_some_iff.mp first
  obtain ⟨location, found⟩ := Option.isSome_iff_exists.mp ((Space.contains_normalize _ _).trans inside)
  by_cases forestalled : setting.Forestalled
  · have empty : (traverse setting (seed :: rest)).trace = [] := trace_of_forestalled rest lawful found forestalled
    rw [empty]
    exact ⟨nofun, iff_of_true rfl forestalled⟩
  · obtain ⟨visit, head, address, read⟩ := first_decoded rest lawful found forestalled
    refine ⟨?_, iff_of_false ?_ forestalled⟩
    · intro other member
      cases head.symm.trans member
      exact ⟨address, read⟩
    · intro empty
      rw [empty] at head
      cases head

end Traversal

namespace Layout

/-- The entry point as an address of the domain. -/
def start (layout : Layout) : UInt64 := layout.domain.normalize layout.entry

theorem setting_forestalled (layout : Layout) (decoder : Decoder κ φ) (config : Config) (control : Control)
    (regions : List Region) (log : IssueLog) : (layout.setting decoder config control regions log).Forestalled ↔
      (∃ polls < 2, control.cancelled ⟨polls, 0, 0⟩ = true) ∨ config.maxInstructions = some 0 := by
  apply or_congr_right
  change config.maxInstructions.map UInt64.toNat = some 0 ↔ _
  rw [Option.map_eq_some_iff]
  constructor
  · rintro ⟨limit, limited, zero⟩
    rw [limited, UInt64.toNat_inj.mp (zero.trans UInt64.toNat_zero.symm)]
  · intro limited
    exact ⟨0, limited, rfl⟩

/-- The entry point is the first seed and the first address to be decoded. If it is not zero and lies in
a region, then whatever other sources offer behind it, and so with every source of bytes and every
setting, the collected seeds begin with it, it is known as the entry point, and it counts as the
one candidate of that source. In a census with a lawful decoder the first instruction is the one there,
and there is one unless the token is set before that or not a single instruction is allowed. -/
theorem entry_point_leads (layout : Layout) (regions : List Region) (nonzero : layout.start ≠ 0)
    (inside : Space.contains ⟨layout.domain, regions⟩ layout.entry = true) :
    (∀ others : List Offer, (SeedSet.collect ⟨layout.domain, regions⟩
      (⟨"entry_point", [layout.entry]⟩ :: others)).LedBy "entry_point" layout.start) ∧
    (∀ (config : Config) (source : Source),
      (layout.seeds config regions source).1.set.LedBy "entry_point" layout.start) ∧
    ∀ {κ φ : Type} [DecidableEq φ] {decoder : Decoder κ φ} (lawful : decoder.Lawful) (name : φ → String)
      (config : Config) (control : Control) (source : Source), (layout.regions config source).1.regions = regions →
      let run := (layout.sample decoder name config control source).1.run
      (∀ visit ∈ run.trace.head?, visit.instruction.address = layout.start ∧
        lawful.instructionAt? ⟨layout.domain, regions⟩ layout.start = some visit.instruction) ∧
      (run.trace = [] ↔
        (∃ polls < 2, control.cancelled ⟨polls, 0, 0⟩ = true) ∨ config.maxInstructions = some 0) := by
  have within : Space.contains ⟨layout.domain, regions⟩ layout.start = true :=
    (Space.contains_normalize _ _).trans inside
  have admitted : Space.admits ⟨layout.domain, regions⟩ (layout.domain.normalize layout.entry) = true :=
    Space.admits_iff.mpr ⟨nonzero, within⟩
  have led (others : List Offer) : SeedSet.LedBy (SeedSet.collect ⟨layout.domain, regions⟩ _) _ layout.start :=
    SeedSet.collect_led admitted "entry_point" others
  have seeded (config : Config) (source : Source) :
      (layout.seeds config regions source).1.set.LedBy "entry_point" layout.start := by
    simp only [seeds, readings_eq, List.cons_append, List.map_cons]
    exact led _
  refine ⟨led, seeded, ?_⟩
  rintro κ φ _ decoder lawful name config control source rfl run
  have first := (seeded config (layout.regions config source).2).first
  let log := IssueLog.record config.maxIssues.toNat (layout.groundwork config source).1.issues
  let setting := layout.setting decoder config control (layout.regions config source).1.regions log
  have begins := Traversal.begins_at_first_seed setting lawful first within
  have same : Traversal.normalize setting layout.start = layout.start := Domain.normalize_normalize _ _
  have sampled : run = traverse setting (layout.groundwork config source).1.seeds.addresses :=
    layout.sample_run decoder name config control source
  rw [same, setting_forestalled] at begins
  rw [sampled]
  exact begins

/-- An entry point by another name. The pointers and the unwind table are not in the file, and the symbols
and the caller name the entry point again. -/
def aliasedEntry : Layout where
  format := .pe
  architecture := .x86
  bitness := 32
  entry := 0x100001001
  sections := [{
    label := ".text"
    base := 0x1000
    fileOffset := some 0
    length := 3
    permissions := { read := true, execute := true } }]
  symbols := [{ table := "exports", value := 0x1001, sectionIndex := some 0, kind := .function }]
  pointerArrays := [{ name := "tls_callbacks", address := 0x9000 }]
  unwindTables := [{ kind := .runtimeFunctions, address := 0x8000, size := 12 }]

theorem aliasedEntry_leads :
    aliasedEntry.start ≠ 0 ∧
    Space.contains ⟨aliasedEntry.domain, [{ label := ".text", base := 0x1000, bytes := #[0x90, 0xc3] }]⟩
      aliasedEntry.entry = true ∧
    (aliasedEntry.regions {} (.memory #[0x90, 0xc3])).1.regions =
      [{ label := ".text", base := 0x1000, bytes := #[0x90, 0xc3] }] ∧
    ∃ visit, (aliasedEntry.sample (X86.decoder .bits32) X86.Extension.name
      { extraEntryPoints := [0x1000, 0x200001001] } {} (.memory #[0x90, 0xc3])).1.run.trace.head? = some visit ∧
      visit.instruction.address = 0x1001 := by
  have nonzero : aliasedEntry.start ≠ 0 := by decide
  have inside : Space.contains ⟨aliasedEntry.domain, [{ label := ".text", base := 0x1000, bytes := #[0x90, 0xc3] }]⟩
      aliasedEntry.entry = true := by decide
  have read : (aliasedEntry.regions {} (.memory #[0x90, 0xc3])).1.regions =
      [{ label := ".text", base := 0x1000, bytes := #[0x90, 0xc3] }] := by decide
  obtain ⟨_, _, sampled⟩ := aliasedEntry.entry_point_leads _ nonzero inside
  obtain ⟨first, stopped⟩ := sampled (X86.lawful .bits32) X86.Extension.name
    { extraEntryPoints := [0x1000, 0x200001001] } {} (.memory #[0x90, 0xc3]) read
  refine ⟨nonzero, inside, read, ?_⟩
  obtain ⟨visit, head⟩ := Option.isSome_iff_exists.mp (List.isSome_head?.mpr (mt stopped.mp (by simp)))
  exact ⟨visit, head, (first visit head).1⟩

end Layout

end IsaCensus
