import IsaCensus.Proofs.ControlFlow
import IsaCensus.Proofs.TraversalEnds
import IsaCensus.Proofs.TraversalPlaces

/-! What a traversal reaches. A traversal that is neither limited nor interrupted decodes
what control flow can reach from its seeds: nothing else, because whatever it takes up is
reachable, and all of it, because a reachable address is always decoded, on the stack, or the
one that is being followed. -/

namespace IsaCensus.Traversal

variable {κ φ : Type} {setting : Setting κ φ} {lawful : setting.decoder.Lawful}

namespace Call

theorem InPlace.read {call : Call κ} (placed : call.InPlace lawful.toTracked) :
    lawful.instructionAt? setting.space call.address = some (call.instruction setting) := by
  obtain ⟨_, offset, region, found, first, stands⟩ := placed
  have inside := Region.offset_lt first.inside
  have listed : setting.space.regions[call.region]? = some region := first.listed
  simp only [Decoder.Lawful.instructionAt?, found, listed, Option.bind_eq_bind, Option.bind_some, Option.pure_def,
    Option.some_inj]
  exact (lawful.decode_reads stands inside).symm

theorem InPlace.edge_of_continues {call : Call κ} (placed : call.InPlace lawful.toTracked)
    (goes : State.continues setting call.region (call.instruction setting) = true) :
    lawful.Edge setting.space call.address (normalize setting (call.instruction setting).next) := by
  simp only [State.continues, Bool.and_eq_true, Option.any_eq_true, beq_iff_eq, Option.isNone_iff_eq_none] at goes
  obtain ⟨⟨clean, falls⟩, location, found, same⟩ := goes
  obtain ⟨offset, _, here, _⟩ := placed.2
  exact .fall placed.read (Instruction.defect_eq_none.mp clean) (Instruction.falls_iff.mp falls) here found same

theorem InPlace.edge_cases {call : Call κ} (placed : call.InPlace lawful.toTracked) {address : UInt64}
    (edge : lawful.Edge setting.space call.address address) (visited queued : Std.HashSet UInt64) :
    (State.continues setting call.region (call.instruction setting) = true ∧
      normalize setting (call.instruction setting).next = address) ∨
    discovered? setting visited queued (call.instruction setting) = some address ∨
    address ∈ visited ∨ address ∈ queued := by
  have inside := edge.inside.2
  cases edge with
  | fall read sound falls here found same =>
    cases placed.read.symm.trans read
    obtain ⟨offset, _, place, _⟩ := placed.2
    cases place.symm.trans here
    refine .inl ⟨?_, rfl⟩
    simp only [State.continues, Instruction.defect_eq_none.mpr sound, Instruction.falls_iff.mpr falls, found]
    simpa using same
  | @branch _ target read sound follows names =>
    cases placed.read.symm.trans read
    right
    by_cases known : normalize setting target ∈ visited ∨ normalize setting target ∈ queued
    · exact .inr known
    · left
      rw [not_or] at known
      exact (discovered_eq_some setting).mpr ⟨Instruction.defect_eq_none.mpr sound, target,
        Instruction.branch_eq_some.mpr ⟨follows, names⟩, rfl, inside, known⟩

end Call

namespace State

/-- Nothing is decoded, followed or waiting inside a region that control does not reach. -/
structure Reachable (lawful : setting.decoder.Lawful) (seeds : List UInt64) (state : State κ φ) : Prop where
  waiting : ∀ address ∈ state.stack, setting.space.contains address = true →
    lawful.Reached setting.space seeds (normalize setting address)
  followed : ∀ {region address}, state.phase = .following region address →
    lawful.Reached setting.space seeds address
  visited : ∀ address ∈ state.visited, lawful.Reached setting.space seeds address

/-- An address has been decoded or will be. -/
def Known (setting : Setting κ φ) (state : State κ φ) (address : UInt64) : Prop :=
  address ∈ state.visited ∨ (∃ waiting ∈ state.stack, normalize setting waiting = address) ∨
    ∃ region, state.phase = .following region address

/-- Nothing that was queued, and nothing to which control goes on from a decoded address, is lost. -/
structure Complete (lawful : setting.decoder.Lawful) (seeds : List UInt64) (state : State κ φ) : Prop where
  seeded : ∀ address ∈ seeds, address ∈ state.queued
  queued : ∀ address ∈ state.queued, setting.space.contains address = true →
    state.Known setting (normalize setting address)
  closed : ∀ address ∈ state.visited, ∀ next, lawful.Edge setting.space address next →
    state.Known setting next

/-- A lawful cursor that stands where an address resolves to has bytes left. -/
theorem ahead_of_following {state : State κ φ} (placed : state.Placed lawful.toTracked) {region : Nat}
    {address : UInt64} (following : state.phase = .following region address) :
    ∃ call, state.ahead? setting = some call ∧ call.address = address := by
  obtain ⟨cursor, held, _, offset, holder, _, first, stands⟩ := placed.followed following
  have inside := Region.offset_lt first.inside
  exact ⟨⟨region, address, cursor⟩,
    (ahead_eq_some setting).mpr ⟨following, held, (lawful.hasRemaining_iff stands).mpr inside⟩, rfl⟩

/-- While the machine chooses, an address is known because it was visited, because it is on top
of the stack, or because it lies deeper. -/
theorem Known.choosing {state : State κ φ} {address start : UInt64} {rest : List UInt64}
    (known : state.Known setting address) (choosing : state.phase = .choosing) (top : state.stack = start :: rest) :
    address ∈ state.visited ∨ address = normalize setting start ∨
      ∃ waiting ∈ state.stack.tail, normalize setting waiting = address := by
  rcases known with visited | ⟨waiting, member, rfl⟩ | ⟨region, following⟩
  · exact .inl visited
  · rw [top] at member ⊢
    rcases List.mem_cons.mp member with rfl | later
    · exact .inr (.inl rfl)
    · exact .inr (.inr ⟨waiting, later, rfl⟩)
  · cases choosing.symm.trans following

theorem Complete.initial (seeds : List UInt64) : (State.initial setting seeds).Complete lawful seeds where
  seeded address member := Std.HashSet.mem_ofList.mpr (List.contains_iff_mem.mpr member)
  queued address member _ := by
    have seed := List.contains_iff_mem.mp (Std.HashSet.mem_ofList.mp member)
    exact .inr (.inl ⟨address, seed, rfl⟩)
  closed address member := by cases Std.HashSet.not_mem_empty member

variable [DecidableEq φ]

theorem Reachable.move {seeds : List UInt64} {before after : State κ φ} (reachable : before.Reachable lawful seeds)
    (placed : before.Placed lawful.toTracked) (move : Move setting before after) :
    after.Reachable lawful seeds := by
  have fewer : ∀ address ∈ before.stack.tail, setting.space.contains address = true →
      lawful.Reached setting.space seeds (normalize setting address) :=
    fun address member => reachable.waiting address (List.mem_of_mem_tail member)
  cases move with
  | rest => exact reachable
  | cancel | complete | leave | exhaust | join => exact ⟨reachable.waiting, nofun, reachable.visited⟩
  | skip choosing | miss choosing | lack choosing =>
    refine ⟨fewer, ?_, reachable.visited⟩
    intro region address following
    cases choosing.symm.trans following
  | start choosing _ top _ found =>
    refine ⟨fewer, ?_, reachable.visited⟩
    intro region address following
    simp only at following
    split at following
    next =>
      cases following
      apply reachable.waiting _ (top ▸ List.mem_cons_self)
      exact (Space.contains_normalize _ _).symm.trans (Space.contains_of_resolve found)
    next => cases following
  | @decode call called =>
    have inPlace := placed.call called
    have here : lawful.Reached setting.space seeds call.address :=
      reachable.followed (call_following setting called)
    refine ⟨?_, ?_, ?_⟩
    · intro address member inside
      rcases (mem_after_stack setting before call).mp member with found | old
      · obtain ⟨clean, target, branch, rfl, _, _⟩ := (discovered_eq_some setting).mp found
        obtain ⟨follows, names⟩ := Instruction.branch_eq_some.mp branch
        have near : setting.space.contains target = true := (Space.contains_normalize _ _).symm.trans inside
        have edge := Decoder.Lawful.Edge.branch inPlace.read (Instruction.defect_eq_none.mp clean) follows names near
        rw [show normalize setting (normalize setting target) = normalize setting target from
          Domain.normalize_normalize _ _]
        exact .edge here edge
      · exact reachable.waiting address old inside
    · intro region address following
      rw [after_phase] at following
      split at following
      next goes =>
        cases following
        exact .edge here (inPlace.edge_of_continues goes)
      next => cases following
    · intro address member
      rw [mem_after_visited, inPlace.instruction_address, inPlace.1] at member
      rcases member with rfl | rfl | old
      · exact here
      · exact here
      · exact reachable.visited address old

theorem Known.move {before after : State κ φ} (placed : before.Placed lawful.toTracked)
    (unlimited : setting.budget = none) (undisturbed : ∀ clock, setting.control.cancelled clock = false)
    {address : UInt64} (inside : setting.space.contains address = true)
    (known : before.Known setting address) (move : Move setting before after) :
    after.Known setting address := by
  cases move with
  | rest => exact known
  | cancel _ token => cases token.symm.trans (undisturbed _)
  | exhaust _ _ spent => simp [exhausted, unlimited] at spent
  | complete choosing _ empty =>
    rcases known with visited | ⟨waiting, member, _⟩ | ⟨region, following⟩
    · exact .inl visited
    · rw [empty] at member
      cases member
    · cases choosing.symm.trans following
  | leave following nothing =>
    obtain ⟨call, ahead, _⟩ := ahead_of_following placed following
    cases nothing.symm.trans ahead
  | join ahead _ _ present =>
    rcases known with visited | waiting | ⟨region, following⟩
    · exact .inl visited
    · exact .inr (.inl waiting)
    · cases ((ahead_eq_some setting).mp ahead).1.symm.trans following
      exact .inl present
  | skip choosing _ top present =>
    rcases known.choosing choosing top with visited | rfl | waiting
    · exact .inl visited
    · exact .inl present
    · exact .inr (.inl waiting)
  | miss choosing _ top _ outside =>
    rcases known.choosing choosing top with visited | rfl | waiting
    · exact .inl visited
    · rw [Space.contains, outside] at inside
      cases inside
    · exact .inr (.inl waiting)
  | lack _ _ _ _ found absent =>
    obtain ⟨holder, first⟩ := Space.resolve_first found
    obtain ⟨cursor, _, held, _⟩ := placed.held first.listed
    cases absent.symm.trans held
  | @start start _ location cursor choosing _ top _ found held =>
    rcases known.choosing choosing top with visited | rfl | waiting
    · exact .inl visited
    · obtain ⟨holder, first⟩ := Space.resolve_first found
      obtain ⟨former, _, present, stands⟩ := placed.held first.listed
      cases held.symm.trans present
      have accepted := (lawful.seek_accepts location.offset stands).mpr (Region.offset_lt first.inside)
      exact .inr (.inr ⟨location.region, if_pos accepted⟩)
    · exact .inr (.inl waiting)
  | @decode call called =>
    rcases known with visited | ⟨waiting, member, rfl⟩ | ⟨region, following⟩
    · exact .inl ((mem_after_visited setting before call).mpr (.inr (.inr visited)))
    · exact .inr (.inl ⟨waiting, (mem_after_stack setting before call).mpr (.inr member), rfl⟩)
    · cases (call_following setting called).symm.trans following
      exact .inl ((mem_after_visited setting before call).mpr (.inl rfl))

theorem known_of_edge {state : State κ φ} {call : Call κ} (placed : call.InPlace lawful.toTracked) {next : UInt64}
    (edge : lawful.Edge setting.space call.address next)
    (queued : ∀ address ∈ state.queued, setting.space.contains address = true →
      (state.after setting call).Known setting (normalize setting address)) :
    (state.after setting call).Known setting next := by
  obtain ⟨normal, inside⟩ := edge.inside
  rcases placed.edge_cases edge (state.after setting call).visited state.queued with
    ⟨goes, rfl⟩ | found | visited | waiting
  · refine .inr (.inr ⟨call.region, ?_⟩)
    rw [after_phase, if_pos goes]
  · exact .inr (.inl ⟨next, (mem_after_stack setting state call).mpr (.inl found), normal⟩)
  · exact .inl visited
  · have known := queued next waiting inside
    rw [show normalize setting next = next from normal] at known
    exact known

theorem Complete.move {seeds : List UInt64} {before after : State κ φ} (complete : before.Complete lawful seeds)
    (placed : before.Placed lawful.toTracked) (unlimited : setting.budget = none)
    (undisturbed : ∀ clock, setting.control.cancelled clock = false) (move : Move setting before after) :
    after.Complete lawful seeds := by
  have kept {address : UInt64} (inside : setting.space.contains address = true)
      (known : before.Known setting address) : after.Known setting address :=
    known.move placed unlimited undisturbed inside move
  have queued : ∀ address ∈ before.queued, setting.space.contains address = true →
      after.Known setting (normalize setting address) := fun address member inside =>
    kept ((Space.contains_normalize _ _).trans inside) (complete.queued address member inside)
  have closed : ∀ address ∈ before.visited, ∀ next, lawful.Edge setting.space address next →
      after.Known setting next := fun address member next edge =>
    kept edge.inside.2 (complete.closed address member next edge)
  cases move with
  | rest => exact complete
  | cancel _ token => cases token.symm.trans (undisturbed _)
  | exhaust _ _ spent => simp [exhausted, unlimited] at spent
  | complete | leave | join | skip | miss | lack | start => exact ⟨complete.seeded, queued, closed⟩
  | @decode call called =>
    have inPlace := placed.call called
    refine ⟨?_, ?_, ?_⟩
    · intro address member
      exact (mem_after_queued setting before call).mpr (.inr (complete.seeded address member))
    · intro address member inside
      rcases (mem_after_queued setting before call).mp member with found | old
      · exact .inr (.inl ⟨address, (mem_after_stack setting before call).mpr (.inl found), rfl⟩)
      · exact queued address old inside
    · intro address member next edge
      -- The address of the path and that of the instruction are one and the same.
      rw [mem_after_visited, inPlace.instruction_address, inPlace.1] at member
      rcases member with rfl | rfl | old
      · exact known_of_edge inPlace edge queued
      · exact known_of_edge inPlace edge queued
      · exact closed address old next edge

end State

variable [DecidableEq φ]

theorem reachable_moment (lawful : setting.decoder.Lawful) (fits : setting.space.Fits) (seeds : List UInt64)
    (time : Nat) : (moment setting seeds time).Reachable lawful seeds := by
  induction time with
  | zero =>
    refine ⟨fun address member inside => .seed member inside, nofun, ?_⟩
    intro address member
    cases Std.HashSet.not_mem_empty member
  | succ time ih =>
    rw [moment_succ]
    exact ih.move (placed_moment lawful.toTracked fits seeds time) (State.step_move setting _)

theorem complete_moment (lawful : setting.decoder.Lawful) (fits : setting.space.Fits)
    (unlimited : setting.budget = none) (undisturbed : ∀ clock, setting.control.cancelled clock = false)
    (seeds : List UInt64) (time : Nat) : (moment setting seeds time).Complete lawful seeds := by
  induction time with
  | zero => exact .initial seeds
  | succ time ih =>
    rw [moment_succ]
    exact ih.move (placed_moment lawful.toTracked fits seeds time) unlimited undisturbed (State.step_move setting _)

/-- A free traversal decodes exactly what control flow reaches from the seeds. -/
theorem decoded_iff_reached (lawful : setting.decoder.Lawful) (fits : setting.space.Fits)
    (unlimited : setting.budget = none) (undisturbed : ∀ clock, setting.control.cancelled clock = false)
    (seeds : List UInt64) (address : UInt64) :
    (∃ visit ∈ (traverse setting seeds).trace, visit.instruction.address = address) ↔
      lawful.Reached setting.space seeds address := by
  obtain ⟨last, _, halt, trace, _⟩ := halts setting seeds
  have placed := placed_moment lawful.toTracked fits seeds last
  have complete := complete_moment lawful fits unlimited undisturbed seeds last
  have logged : (∃ visit ∈ (traverse setting seeds).trace, visit.instruction.address = address) ↔
      address ∈ (moment setting seeds last).visited := by
    rw [placed.logged, trace]
    simp only [Array.mem_toList_iff]
  rw [logged]
  clear logged
  constructor
  · exact (reachable_moment lawful fits seeds last).visited address
  · intro reached
    have visited {address : UInt64} (known : (moment setting seeds last).Known setting address) :
        address ∈ (moment setting seeds last).visited := by
      obtain ⟨choosing, empty⟩ := halt.drained setting unlimited undisturbed
      rcases known with visited | ⟨waiting, member, _⟩ | ⟨region, following⟩
      · exact visited
      · rw [empty] at member
        cases member
      · cases choosing.symm.trans following
    induction reached with
    | seed member inside => exact visited (complete.queued _ (complete.seeded _ member) inside)
    | edge _ edge ih => exact visited (complete.closed _ ih _ edge)

theorem overlapping_reached :
    overlapping.space.Fits ∧ overlapping.budget = none ∧ (∀ clock, overlapping.control.cancelled clock = false) ∧
    ∃ visit ∈ (traverse overlapping [0x100001000]).trace, visit.instruction.address = 0x1005 := by
  have fits : overlapping.space.Fits := by decide
  have seeded : (X86.lawful .bits64).Reached overlapping.space [0x100001000] 0x1000 :=
    .seed List.mem_cons_self (by decide)
  have passes : (X86.lawful .bits64).instructionAt? overlapping.space 0x1000 =
      some ((X86.Encoding.plain [0x90] [.intel8086]).instruction .bits64 0x1000) := by decide
  have branches : (X86.lawful .bits64).instructionAt? overlapping.space 0x1001 =
      some ((X86.Encoding.branch [0x74, 0x02] 1 .conditionalBranch [.x64]).instruction .bits64 0x1001) := by decide
  have behind : (X86.lawful .bits64).Edge overlapping.space 0x1000 0x1001 :=
    .fall passes ⟨by decide, by decide, by decide⟩ (by decide) rfl rfl rfl
  have across : (X86.lawful .bits64).Edge overlapping.space 0x1001 0x1005 :=
    .branch branches ⟨by decide, by decide, by decide⟩ (by decide) rfl (by decide)
  refine ⟨fits, rfl, fun _ => rfl, ?_⟩
  exact (@decoded_iff_reached _ _ overlapping _ (X86.lawful .bits64) fits rfl (fun _ => rfl) _ _).mpr
    (.edge (.edge seeded behind) across)

end IsaCensus.Traversal
