import IsaCensus.Proofs.IssueCaps
import IsaCensus.Proofs.PartialRuns
import IsaCensus.Proofs.SeedFilter
import IsaCensus.Proofs.TraversalSeeds

/-! What becomes of the seeds. The collector keeps an address that resolves, the traversal queues
a target that resolves, and both ask for the same regions, whether these overlap or were read in
part only. So the machine finds code at every address that it takes from its stack, and a
traversal that is not cut short decodes all of the seeds. -/

namespace IsaCensus

variable {κ φ : Type}

namespace Traversal

variable {setting : Setting κ φ}

namespace State

/-- Whatever waits lies in a region, and no address was found to lie outside of them. -/
structure Grounded (setting : Setting κ φ) (state : State κ φ) : Prop where
  waiting : ∀ address ∈ state.stack, setting.space.contains address = true
  silent : ∀ issue ∈ state.issues, issue.kind ≠ .unresolvedAddress

/-- From one state to the next an address is taken from the stack and found: it resolves to a
region whose cursor goes there, and unless it was decoded before it is followed. -/
structure Takes (setting : Setting κ φ) (before after : State κ φ) (start : UInt64) (location : Location)
    (cursor : κ) : Prop where
  top : before.stack = start :: after.stack
  resolved : setting.space.resolve (normalize setting start) = some location
  held : before.cursors[location.region]? = some cursor
  accepted : (setting.decoder.seek cursor location.offset).1 = true
  followed : normalize setting start ∉ before.visited →
    after.phase = .following location.region (normalize setting start)

theorem Grounded.resolves {state : State κ φ} (grounded : state.Grounded setting) {start : UInt64}
    {rest : List UInt64} (top : state.stack = start :: rest) :
    ∃ location, setting.space.resolve (normalize setting start) = some location := by
  have inside := grounded.waiting start (top ▸ List.mem_cons_self)
  rw [← Space.contains_normalize] at inside
  exact Option.isSome_iff_exists.mp inside

theorem Placed.finds {tracked : setting.decoder.Tracked} {state : State κ φ} (placed : state.Placed tracked)
    {address : UInt64} {location : Location} (found : setting.space.resolve address = some location) :
    ∃ cursor, state.cursors[location.region]? = some cursor ∧
      (setting.decoder.seek cursor location.offset).1 = true := by
  obtain ⟨region, first⟩ := Space.resolve_first found
  obtain ⟨cursor, position, held, stands⟩ := placed.held first.listed
  exact ⟨cursor, held, (tracked.seek_accepts location.offset stands).mpr (Region.offset_lt first.inside)⟩

variable [DecidableEq φ]

theorem Grounded.move {before after : State κ φ} (grounded : before.Grounded setting)
    (move : Move setting before after) : after.Grounded setting := by
  have fewer : ∀ address ∈ before.stack.tail, setting.space.contains address = true :=
    fun address member => grounded.waiting address (List.mem_of_mem_tail member)
  cases move with
  | rest | cancel | complete | leave | join => exact ⟨grounded.waiting, grounded.silent⟩
  | skip | lack | start => exact ⟨fewer, grounded.silent⟩
  | miss _ _ top _ outside =>
    obtain ⟨location, found⟩ := grounded.resolves top
    cases outside.symm.trans found
  | exhaust =>
    refine ⟨grounded.waiting, ?_⟩
    intro issue told
    rcases Array.mem_push.mp told with earlier | rfl
    · exact grounded.silent issue earlier
    · exact fun same => nomatch same
  | @decode call called =>
    refine ⟨?_, ?_⟩
    · intro address member
      rcases (mem_after_stack setting before call).mp member with found | old
      · obtain ⟨_, _, _, _, inside, _⟩ := (discovered_eq_some setting).mp found
        exact inside
      · exact grounded.waiting address old
    · intro issue told
      rw [after_issues] at told
      split at told
      next defect _ =>
        rcases Array.mem_push.mp told with earlier | rfl
        · exact grounded.silent issue earlier
        · intro same
          exact absurd (same ▸ complains defect _) (by decide)
      next => exact grounded.silent issue told

/-- The machine takes an address only to find it. -/
theorem Grounded.takes {tracked : setting.decoder.Tracked} {before after : State κ φ}
    (grounded : before.Grounded setting) (placed : before.Placed tracked) (move : Move setting before after)
    (popped : after.pops ≠ before.pops) :
    ∃ start location cursor, before.Takes setting after start location cursor := by
  have rest {start : UInt64} {others : List UInt64} (top : before.stack = start :: others) :
      before.stack = start :: before.stack.tail := by
    rw [top, List.tail_cons]
  cases move with
  -- These moves leave the stack as it is, so nothing was counted as taken from it.
  | rest | cancel | complete | leave | exhaust | join => exact absurd rfl popped
  | decode => exact absurd (after_pops ..) popped
  | @skip start _ _ _ top known =>
    obtain ⟨location, found⟩ := grounded.resolves top
    obtain ⟨cursor, held, accepted⟩ := placed.finds found
    exact ⟨start, location, cursor, rest top, found, held, accepted, fun fresh => absurd known fresh⟩
  | miss _ _ top _ outside =>
    obtain ⟨location, found⟩ := grounded.resolves top
    cases outside.symm.trans found
  | lack _ _ _ _ found absent =>
    obtain ⟨cursor, held, _⟩ := placed.finds found
    cases absent.symm.trans held
  | @start start _ location cursor _ _ top _ found held =>
    obtain ⟨other, present, accepted⟩ := placed.finds found
    cases held.symm.trans present
    exact ⟨start, location, cursor, rest top, found, held, accepted, fun _ => if_pos accepted⟩

end State

variable [DecidableEq φ]

theorem grounded_moment {seeds : List UInt64} (inside : ∀ seed ∈ seeds, setting.space.contains seed = true)
    (time : Nat) : (moment setting seeds time).Grounded setting := by
  apply moment_keeps setting
  · exact ⟨inside, fun issue told => absurd told (Array.not_mem_empty issue)⟩
  · intro before after grounded move
    exact grounded.move move

theorem taken_found (tracked : setting.decoder.Tracked) (fits : setting.space.Fits) {seeds : List UInt64}
    (inside : ∀ seed ∈ seeds, setting.space.contains seed = true) (time : Nat)
    (popped : (moment setting seeds (time + 1)).pops ≠ (moment setting seeds time).pops) :
    ∃ start location cursor, (moment setting seeds time).Takes setting (moment setting seeds (time + 1))
      start location cursor := by
  have move := State.step_move setting (moment setting seeds time)
  rw [← moment_succ] at move
  exact (grounded_moment inside time).takes (placed_moment tracked fits seeds time) move popped

/-- A traversal that completes has done what the free one does. -/
theorem completed_trace {seeds : List UInt64} (completed : (traverse setting seeds).outcome = .completed) :
    (traverse setting seeds).trace = (traverse setting.free seeds).trace := by
  obtain ⟨last, running, halt, trace, _⟩ := halts setting seeds
  rw [completed] at halt
  cases halt with
  | completed choosing _ empty =>
    rw [trace, completed_free setting choosing empty (moment_unwatched setting running)]

theorem seed_decoded (lawful : setting.decoder.Lawful) (fits : setting.space.Fits) {seeds : List UInt64}
    (completed : (traverse setting seeds).outcome = .completed) {seed : UInt64} (member : seed ∈ seeds)
    (inside : setting.space.contains seed = true) :
    ∃ visit ∈ (traverse setting seeds).trace, visit.instruction.address = normalize setting seed := by
  rw [completed_trace completed]
  exact @reached_decoded _ _ setting.free _ lawful fits rfl (fun _ => rfl) seeds _ (.seed member inside)

/-- As many instructions are decoded as there are seeds that differ. -/
theorem seeds_counted (lawful : setting.decoder.Lawful) (fits : setting.space.Fits) {seeds : List UInt64}
    (completed : (traverse setting seeds).outcome = .completed)
    (inside : ∀ seed ∈ seeds, setting.space.contains seed = true)
    (distinct : (seeds.map (normalize setting)).Nodup) :
    seeds.length ≤ (traverse setting seeds).totals.instructions := by
  have decoded : seeds.map (normalize setting) ⊆
      (traverse setting seeds).trace.map fun visit => visit.instruction.address := by
    intro address listed
    obtain ⟨seed, member, rfl⟩ := List.mem_map.mp listed
    obtain ⟨visit, present, same⟩ := seed_decoded lawful fits completed member (inside seed member)
    exact List.mem_map.mpr ⟨visit, present, same⟩
  have bound := (distinct.subperm decoded).length_le
  rw [List.length_map, List.length_map] at bound
  rw [traverse_totals, Totals.over_instructions]
  exact bound

end Traversal

theorem Space.normalize_accepted {space : Space} {offers : List Offer} {address : UInt64}
    (kept : address ∈ space.accepted (space.offered offers)) : space.domain.normalize address = address := by
  obtain ⟨offer, _, listed⟩ := List.mem_flatMap.mp (Space.mem_accepted.mp kept).1
  obtain ⟨candidate, _, rfl⟩ := List.mem_map.mp listed
  exact Domain.normalize_normalize _ _

namespace Layout

variable (layout : Layout) (config : Config) (source : Source)

/-- In 64 bits every region is shorter than the address space, since no read can ask for all of it. -/
theorem regions_fit
    (short : layout.domain = .rva32 →
      ∀ region ∈ (layout.regions config source).1.regions, region.length < 0x100000000) :
    Space.Fits ⟨layout.domain, (layout.regions config source).1.regions⟩ := by
  intro region listed
  change region.length < layout.domain.width
  cases wide : layout.domain with
  | rva32 => exact short wide region listed
  | va64 => exact Nat.lt_of_le_of_lt (Layout.length_regions listed) config.maxRegionBytes.toNat_lt

/-- The seeds of a census are different addresses, written in one way and inside of a region. -/
theorem groundwork_seeds :
    let ground := (layout.groundwork config source).1
    ground.seeds.addresses.Nodup ∧ ground.seeds.summary.accepted = ground.seeds.addresses.length ∧
    ∀ address ∈ ground.seeds.addresses, layout.domain.normalize address = address ∧
      Space.contains ⟨layout.domain, ground.regions⟩ address = true := by
  intro ground
  let space : Space := ⟨layout.domain, ground.regions⟩
  let offers := (layout.readings config (layout.regions config source).2).1.map Reading.offer
  have addresses : ground.seeds.addresses = space.accepted (space.offered offers) :=
    SeedSet.collect_addresses space offers
  refine ⟨?_, ?_, ?_⟩
  · rw [addresses]
    exact space.accepted_nodup _
  · exact (SeedSet.collect_accepted space offers).trans (SeedSet.collect_added space offers)
  · intro address kept
    rw [addresses] at kept
    exact ⟨Space.normalize_accepted kept, (Space.mem_accepted.mp kept).2.2⟩

/-- Every seed that a census accepts reaches the decoder. Whatever the traversal takes from its
stack is found, so no address is ever reported to lie outside the regions; and when it completes,
it has decoded all accepted seeds, which are no more than the instructions. -/
theorem accepted_seeds_decoded [DecidableEq φ] {decoder : Decoder κ φ} (lawful : decoder.Lawful) (name : φ → String)
    (control : Control)
    (short : layout.domain = .rva32 →
      ∀ region ∈ (layout.regions config source).1.regions, region.length < 0x100000000) :
    let ground := (layout.groundwork config source).1
    let setting := layout.setting decoder config control ground.regions
      (IssueLog.record config.maxIssues.toNat ground.issues)
    let census := (layout.sample decoder name config control source).1
    census.run = traverse setting ground.seeds.addresses ∧
    (∀ issue ∈ ground.issues ++ census.run.issues ++ census.report.issues, issue.kind ≠ .unresolvedAddress) ∧
    (∀ time, (Traversal.moment setting ground.seeds.addresses (time + 1)).pops ≠
        (Traversal.moment setting ground.seeds.addresses time).pops →
      ∃ start location cursor, (Traversal.moment setting ground.seeds.addresses time).Takes setting
        (Traversal.moment setting ground.seeds.addresses (time + 1)) start location cursor) ∧
    (census.report.outcome = .completed →
      (∀ address ∈ ground.seeds.addresses, ∃ visit ∈ census.run.trace, visit.instruction.address = address) ∧
      census.report.seeds.accepted ≤ census.report.instructions) := by
  intro ground setting census
  have run : census.run = traverse setting ground.seeds.addresses :=
    layout.sample_run decoder name config control source
  have fits : setting.space.Fits := layout.regions_fit config source short
  obtain ⟨distinct, accepted, seeded⟩ := layout.groundwork_seeds config source
  have normal : ground.seeds.addresses.map (Traversal.normalize setting) = ground.seeds.addresses :=
    (List.map_congr_left fun address kept => (seeded address kept).1).trans (List.map_id _)
  have inside : ∀ address ∈ ground.seeds.addresses, setting.space.contains address = true :=
    fun address kept => (seeded address kept).2
  have silent : ∀ issue ∈ ground.issues ++ census.run.issues, issue.kind ≠ .unresolvedAddress := by
    intro issue told
    rcases List.mem_append.mp told with before | during
    · intro same
      exact absurd (same ▸ layout.groundwork_kind config source issue before) (by decide)
    · rw [run] at during
      exact (Traversal.grounded_moment inside _).silent issue (Array.mem_toList_iff.mp during)
  refine ⟨run, ?_, ?_, ?_⟩
  · intro issue told
    rcases List.mem_append.mp told with found | shown
    · exact silent issue found
    · rw [layout.sample_issues, raised, ← layout.sample_run_issues decoder name] at shown
      rcases Issue.mem_cut shown with found | counted
      · exact silent issue found
      · rw [counted]
        decide
  · intro time popped
    exact Traversal.taken_found lawful.toTracked fits inside time popped
  · intro ended
    have report := layout.sample_report decoder name config control source
    have completed : (traverse setting ground.seeds.addresses).outcome = .completed :=
      run ▸ (congrArg Report.outcome report).symm.trans ended
    have numbers : census.report.instructions = (traverse setting ground.seeds.addresses).totals.instructions :=
      run ▸ congrArg Report.instructions report
    have summary : census.report.seeds = ground.seeds.summary := congrArg Report.seeds report
    rw [run, numbers, summary]
    refine ⟨?_, ?_⟩
    · intro address kept
      obtain ⟨visit, member, same⟩ := Traversal.seed_decoded lawful fits completed kept (inside address kept)
      exact ⟨visit, member, same.trans (seeded address kept).1⟩
    · have counted := Traversal.seeds_counted lawful fits completed inside (normal.symm ▸ distinct)
      exact Nat.le_trans (Nat.le_of_eq accepted) counted

/-- A section of three bytes, of which two are in the file. -/
def stubLayout : Layout where
  format := .pe
  architecture := .x86
  bitness := 32
  entry := 0x1000
  sections := [{
    label := ".text"
    base := 0x1000
    fileOffset := some 0
    length := 3
    permissions := { read := true, execute := true } }]

/-- An alias of the second byte, and the third, which cannot be read. -/
def stubConfig : Config := { extraEntryPoints := [0x100001001, 0x1002] }

theorem stub_seeds_decoded :
    (stubLayout.domain = .rva32 →
      ∀ region ∈ (stubLayout.regions stubConfig (.memory #[0x90, 0xc3])).1.regions,
        region.length < 0x100000000) ∧
    ∀ address ∈ [0x1000, 0x1001],
      ∃ visit ∈ (stubLayout.sample (X86.decoder .bits32) X86.Extension.name stubConfig {}
        (.memory #[0x90, 0xc3])).1.run.trace, visit.instruction.address = address := by
  have short : stubLayout.domain = .rva32 →
      ∀ region ∈ (stubLayout.regions stubConfig (.memory #[0x90, 0xc3])).1.regions,
        region.length < 0x100000000 := by
    decide
  obtain ⟨_, _, _, decoded⟩ := stubLayout.accepted_seeds_decoded stubConfig (.memory #[0x90, 0xc3])
    (X86.lawful .bits32) X86.Extension.name {} short
  have addresses : (stubLayout.groundwork stubConfig (.memory #[0x90, 0xc3])).1.seeds.addresses = [0x1000, 0x1001] :=
    (SeedSet.collect_addresses _ _).trans (by decide)
  have completed := Traversal.completes (stubLayout.setting (X86.decoder .bits32) stubConfig {}
    (stubLayout.groundwork stubConfig (.memory #[0x90, 0xc3])).1.regions
    (IssueLog.record 200 (stubLayout.groundwork stubConfig (.memory #[0x90, 0xc3])).1.issues)) rfl (fun _ => rfl)
    (stubLayout.groundwork stubConfig (.memory #[0x90, 0xc3])).1.seeds.addresses
  have ended : (stubLayout.sample (X86.decoder .bits32) X86.Extension.name stubConfig {}
      (.memory #[0x90, 0xc3])).1.report.outcome = .completed := by
    rw [sample_eq]
    exact completed
  refine ⟨short, ?_⟩
  rw [← addresses]
  exact (decoded ended).1

end Layout

end IsaCensus
