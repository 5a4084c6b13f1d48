import Mathlib.Algebra.GroupWithZero.Nat
import Mathlib.Algebra.Order.BigOperators.Group.List
import IsaCensus.Proofs.Addresses
import IsaCensus.Proofs.TraversalRuns
import IsaCensus.Decode.X86.Table

/-! The order of the regions. Where regions overlap, an address belongs to the one that is listed
first. Where they do not, the order decides nothing but the places of the regions in the list, and
the machine uses a place only to find a cursor and to see whether a path is still in its region. So
two machines whose regions stand in different orders, or with empty ones between them, take the
same steps. -/

namespace IsaCensus

variable {κ φ : Type}

namespace Region

variable {domain : Domain}

theorem offset_of_empty {region : Region} (empty : region.length = 0) (address : UInt64) :
    region.offset? address = none := by
  cases found : region.offset? address with
  | none => rfl
  | some offset =>
    have bound := offset_lt found
    omega

/-- The region holds an address as its domain writes it. -/
def Holds (domain : Domain) (region : Region) (address : UInt64) : Prop :=
  (region.offset? (domain.normalize address)).isSome = true

/-- No address lies in both regions. -/
def Apart (domain : Domain) (first second : Region) : Prop :=
  ∀ address, ¬ (first.Holds domain address ∧ second.Holds domain address)

theorem Apart.symm {first second : Region} (apart : first.Apart domain second) : second.Apart domain first :=
  fun address both => apart address both.symm

theorem Holds.occupied {region : Region} {address : UInt64} (holds : region.Holds domain address) :
    region.length ≠ 0 := by
  intro empty
  rw [Holds, offset_of_empty empty] at holds
  cases holds

theorem apart_of_empty {region : Region} (empty : region.length = 0) (other : Region) : region.Apart domain other :=
  fun _ both => both.1.occupied empty

/-- Of regions that are apart, an address tells which one is meant. -/
theorem place_unique {regions : List Region} (apart : regions.Pairwise (Apart domain)) {address : UInt64}
    {place other : Nat} {first second : Region} (listed : regions[place]? = some first)
    (again : regions[other]? = some second) (inside : first.Holds domain address)
    (within : second.Holds domain address) : place = other := by
  obtain ⟨bound, rfl⟩ := List.getElem?_eq_some_iff.mp listed
  obtain ⟨limit, rfl⟩ := List.getElem?_eq_some_iff.mp again
  have different := List.pairwise_iff_getElem.mp apart
  rcases Nat.lt_trichotomy place other with before | same | behind
  · exact absurd ⟨inside, within⟩ (different place other bound limit before address)
  · exact same
  · exact absurd ⟨within, inside⟩ (different other place limit bound behind address)

end Region

/-- Two lists of regions that an address cannot tell apart: in neither is it inside of two
regions, and both have the same regions but for those that hold no address. -/
structure Interchangeable (domain : Domain) (regions others : List Region) : Prop where
  apart : regions.Pairwise (Region.Apart domain)
  distant : others.Pairwise (Region.Apart domain)
  shared : ∀ region address, region.Holds domain address → (region ∈ regions ↔ region ∈ others)

/-- The places at which two lists have the same region, which holds an address. -/
def Paired (domain : Domain) (regions others : List Region) (place other : Nat) : Prop :=
  ∃ region address, regions[place]? = some region ∧ others[other]? = some region ∧ region.Holds domain address

section Paired
variable {domain : Domain} {regions others : List Region}

theorem Interchangeable.of_perm {empties : List Region} (apart : regions.Pairwise (Region.Apart domain))
    (hollow : ∀ region ∈ empties, region.length = 0) (rearranged : others.Perm (regions ++ empties)) :
    Interchangeable domain regions others where
  apart := apart
  distant := by
    apply (rearranged.pairwise_iff fun apart => apart.symm).mpr
    refine List.pairwise_append.mpr ⟨apart, ?_, ?_⟩
    · apply List.pairwise_of_forall_mem_list
      intro region listed other _
      exact Region.apart_of_empty (hollow region listed) other
    · intro region _ empty listed
      exact (Region.apart_of_empty (hollow empty listed) region).symm
  shared region address holds := by
    have solid : region ∉ empties := fun listed => holds.occupied (hollow region listed)
    rw [rearranged.mem_iff, List.mem_append]
    exact ⟨.inl, fun either => either.resolve_right solid⟩

variable {place other : Nat}

theorem Paired.unique (same : Interchangeable domain regions others) (paired : Paired domain regions others place other)
    {place' other' : Nat} (again : Paired domain regions others place' other') : place = place' ↔ other = other' := by
  obtain ⟨region, address, listed, found, holds⟩ := paired
  obtain ⟨region', address', listed', found', holds'⟩ := again
  constructor
  · rintro rfl
    cases listed.symm.trans listed'
    exact Region.place_unique same.distant found found' holds holds
  · rintro rfl
    cases found.symm.trans found'
    exact Region.place_unique same.apart listed listed' holds holds

/-- An address resolves to paired places and the same offset, or to none in both lists. -/
theorem locate_paired (same : Interchangeable domain regions others) (address : UInt64) :
    (locate regions (domain.normalize address) = none ∧ locate others (domain.normalize address) = none) ∨
    ∃ place other offset, locate regions (domain.normalize address) = some ⟨place, offset⟩ ∧
      locate others (domain.normalize address) = some ⟨other, offset⟩ ∧
      Paired domain regions others place other := by
  cases found : locate regions (domain.normalize address) with
  | none =>
    refine .inl ⟨rfl, ?_⟩
    apply locate_eq_none.mpr
    intro region listed
    by_contra inside
    have holds : region.Holds domain address := Option.isSome_iff_ne_none.mpr inside
    exact inside (locate_eq_none.mp found region ((same.shared region address holds).mpr listed))
  | some location =>
    obtain ⟨place, offset⟩ := location
    obtain ⟨region, first⟩ := locate_first found
    have holds : region.Holds domain address := Option.isSome_iff_exists.mpr ⟨offset, first.inside⟩
    have shared := (same.shared region address holds).mp (List.mem_of_getElem? first.listed)
    cases again : locate others (domain.normalize address) with
    | none => cases first.inside.symm.trans (locate_eq_none.mp again region shared)
    | some mirror =>
      obtain ⟨other, shift⟩ := mirror
      obtain ⟨holder, last⟩ := locate_first again
      obtain ⟨spot, listed⟩ := List.mem_iff_getElem?.mp shared
      have held : holder.Holds domain address := Option.isSome_iff_exists.mpr ⟨shift, last.inside⟩
      -- The two holders stand at one place of the other list.
      have equal : spot = other := Region.place_unique same.distant listed last.listed holds held
      subst equal
      cases listed.symm.trans last.listed
      cases first.inside.symm.trans last.inside
      exact .inr ⟨place, spot, offset, rfl, rfl, region, address, first.listed, listed, holds⟩

/-- A cursor that is moved in both machines leaves their cursors the same. -/
theorem Paired.moved (same : Interchangeable domain regions others) (paired : Paired domain regions others place other)
    {cursors mirrors : Array κ}
    (equal : ∀ {place other}, Paired domain regions others place other → cursors[place]? = mirrors[other]?)
    (moved : κ) {place' other' : Nat} (again : Paired domain regions others place' other') :
    (cursors.setIfInBounds place moved)[place']? = (mirrors.setIfInBounds other moved)[other']? := by
  have inside : place < cursors.size ↔ other < mirrors.size := by
    rw [← not_iff_not, Nat.not_lt, Nat.not_lt, ← Array.getElem?_eq_none_iff, ← Array.getElem?_eq_none_iff,
      equal paired]
  rw [Array.getElem?_setIfInBounds, Array.getElem?_setIfInBounds]
  simp only [paired.unique same again, inside, equal again]

end Paired

/-- The same setting over other regions. -/
def Setting.over (setting : Setting κ φ) (regions : List Region) : Setting κ φ :=
  { setting with space := ⟨setting.space.domain, regions⟩ }

@[simp] theorem Setting.over_decoder (setting : Setting κ φ) (regions : List Region) :
    (setting.over regions).decoder = setting.decoder := rfl

@[simp] theorem Setting.over_control (setting : Setting κ φ) (regions : List Region) :
    (setting.over regions).control = setting.control := rfl

namespace Traversal

variable (setting : Setting κ φ) (others : List Region)

@[simp] theorem normalize_over : normalize (setting.over others) = normalize setting := rfl

/-- A place of the first machine and the place of the same region in the other one. -/
abbrev Mirrored (place other : Nat) : Prop :=
  Paired setting.space.domain setting.space.regions others place other

/-- Both machines choose, or both have stopped, or they follow one path in one region. -/
inductive Phase.Alike : Phase → Phase → Prop
  | choosing : Alike .choosing .choosing
  | following {place other address} (paired : Mirrored setting others place other) :
      Alike (.following place address) (.following other address)
  | done {outcome} : Alike (.done outcome) (.done outcome)

theorem Phase.Alike.follow_if {place mirror : Nat} (paired : Mirrored setting others place mirror) (goes : Bool)
    (address : UInt64) : Alike setting others (if goes then .following place address else .choosing)
      (if goes then .following mirror address else .choosing) := by
  cases goes with
  | true => exact .following paired
  | false => exact .choosing

theorem Phase.Alike.outcome {phase mirror : Phase} (alike : Alike setting others phase mirror) :
    phase.outcome = mirror.outcome := by
  cases alike <;> rfl

/-- What a visit tells without the place of its region. -/
def told (visit : Visit φ) : UInt64 × Instruction φ := (visit.address, visit.instruction)

namespace State

/-- A state without what depends on the places of the regions. -/
def bare (state : State κ φ) : State κ φ :=
  { state with cursors := #[], phase := .choosing, trace := #[] }

/-- States of two machines that differ in the places of their regions. -/
structure Alike (one other : State κ φ) : Prop where
  phase : Phase.Alike setting others one.phase other.phase
  cursors : ∀ {place mirror}, Mirrored setting others place mirror → one.cursors[place]? = other.cursors[mirror]?
  trace : one.trace.map told = other.trace.map told
  bare : one.bare = other.bare

variable {setting others}

theorem Alike.stack {one other : State κ φ} (alike : Alike setting others one other) : one.stack = other.stack :=
  have same := congrArg State.stack alike.bare
  same

theorem Alike.visited {one other : State κ φ} (alike : Alike setting others one other) :
    one.visited = other.visited :=
  have same := congrArg State.visited alike.bare
  same

theorem Alike.clock {one other : State κ φ} (alike : Alike setting others one other) : one.clock = other.clock :=
  have same := congrArg State.clock alike.bare
  same

theorem Alike.exhausted {one other : State κ φ} (alike : Alike setting others one other) :
    State.exhausted setting one = State.exhausted (setting.over others) other :=
  have same := congrArg (State.exhausted setting) alike.bare
  same

theorem Alike.initial (seeds : List UInt64) :
    Alike setting others (State.initial setting seeds) (State.initial (setting.over others) seeds) where
  phase := .choosing
  cursors paired := by
    obtain ⟨region, address, listed, found, _⟩ := paired
    simp [State.initial, Setting.over, listed, found]
  trace := rfl
  bare := rfl

/-- The stops of both machines, and all moves that take nothing up. -/
theorem Alike.enter {one other : State κ φ} (alike : Alike setting others one other) {phase mirror : Phase}
    (same : Phase.Alike setting others phase mirror) : Alike setting others (one.enter phase) (other.enter mirror) where
  phase := same
  cursors := alike.cursors
  trace := alike.trace
  bare := alike.bare

theorem Alike.polled {one other : State κ φ} (alike : Alike setting others one other) :
    Alike setting others one.polled other.polled where
  phase := alike.phase
  cursors := alike.cursors
  trace := alike.trace
  bare := congrArg State.polled alike.bare

theorem Alike.popped {one other : State κ φ} (alike : Alike setting others one other) :
    Alike setting others one.popped other.popped where
  phase := alike.phase
  cursors := alike.cursors
  trace := alike.trace
  bare := congrArg State.popped alike.bare

theorem Alike.report {one other : State κ φ} (alike : Alike setting others one other) (issue : Issue) :
    Alike setting others (one.report issue) (other.report issue) where
  phase := alike.phase
  cursors := alike.cursors
  trace := alike.trace
  bare := congrArg (State.report · issue) alike.bare

theorem resolve_mirrored (same : Interchangeable setting.space.domain setting.space.regions others) (address : UInt64) :
    (setting.space.resolve address = none ∧ (setting.over others).space.resolve address = none) ∨
    ∃ place mirror offset, setting.space.resolve address = some ⟨place, offset⟩ ∧
      (setting.over others).space.resolve address = some ⟨mirror, offset⟩ ∧ Mirrored setting others place mirror :=
  locate_paired same address

theorem contains_over (same : Interchangeable setting.space.domain setting.space.regions others) (address : UInt64) :
    (setting.over others).space.contains address = setting.space.contains address := by
  rcases resolve_mirrored same address with ⟨outside, beyond⟩ | ⟨_, _, _, found, again, _⟩
  · rw [Space.contains, Space.contains, outside, beyond]
  · rw [Space.contains, Space.contains, found, again]
    rfl

theorem continues_over (same : Interchangeable setting.space.domain setting.space.regions others) {place mirror : Nat}
    (paired : Mirrored setting others place mirror) (instruction : Instruction φ) :
    continues (setting.over others) mirror instruction = continues setting place instruction := by
  unfold continues
  rcases resolve_mirrored same instruction.next with ⟨outside, beyond⟩ | ⟨_, _, _, found, again, next⟩
  · rw [outside, beyond]
    rfl
  · have stays := next.unique same paired
    rw [found, again]
    simp only [Option.any_some, Bool.beq_eq_decide_eq, stays]

theorem discovered_over (same : Interchangeable setting.space.domain setting.space.regions others)
    (visited queued : Std.HashSet UInt64) (instruction : Instruction φ) :
    discovered? (setting.over others) visited queued instruction = discovered? setting visited queued instruction := by
  simp only [discovered?, normalize_over, contains_over same]

theorem Alike.begin (same : Interchangeable setting.space.domain setting.space.regions others) {one other : State κ φ}
    (alike : Alike setting others one other) (start : UInt64) :
    Alike setting others (one.begin setting start) (other.begin (setting.over others) start) := by
  unfold State.begin
  by_cases known : normalize setting start ∈ one.visited
  · have also : normalize (setting.over others) start ∈ other.visited := alike.visited ▸ known
    simp only [known, also, if_true]
    exact alike
  have unknown : normalize (setting.over others) start ∉ other.visited := alike.visited ▸ known
  simp only [known, unknown, if_false]
  rcases resolve_mirrored same (normalize setting start) with
    ⟨outside, beyond⟩ | ⟨place, mirror, offset, found, again, paired⟩
  · simp only [normalize_over, outside, beyond]
    exact alike.report _
  · simp only [normalize_over, found, again, ← alike.cursors paired]
    cases held : one.cursors[place]? with
    | none => exact alike
    | some cursor =>
      exact ⟨.follow_if _ _ paired _ _, fun more => paired.moved same alike.cursors _ more, alike.trace, alike.bare⟩

theorem Alike.ahead {one other : State κ φ} (alike : Alike setting others one other) {place mirror : Nat}
    {address : UInt64} (paired : Mirrored setting others place mirror)
    (following : one.phase = .following place address) (mirrored : other.phase = .following mirror address) :
    (one.ahead? setting = none ∧ other.ahead? (setting.over others) = none) ∨
    ∃ cursor, one.ahead? setting = some ⟨place, address, cursor⟩ ∧
      other.ahead? (setting.over others) = some ⟨mirror, address, cursor⟩ := by
  simp only [ahead?, following, mirrored, Setting.over_decoder, ← alike.cursors paired]
  cases one.cursors[place]?.filter setting.decoder.hasRemaining with
  | none => exact .inl ⟨rfl, rfl⟩
  | some cursor => exact .inr ⟨cursor, rfl, rfl⟩

variable [DecidableEq φ]

theorem Alike.after (same : Interchangeable setting.space.domain setting.space.regions others) {one other : State κ φ}
    (alike : Alike setting others one other) {place mirror : Nat} (paired : Mirrored setting others place mirror)
    (address : UInt64) (cursor : κ) :
    Alike setting others (one.after setting ⟨place, address, cursor⟩)
      (other.after (setting.over others) ⟨mirror, address, cursor⟩) where
  phase := by
    rw [after_phase, after_phase, continues_over same paired]
    exact .follow_if _ _ paired _ _
  cursors more := by
    rw [after_cursors, after_cursors]
    exact paired.moved same alike.cursors _ more
  trace := by
    rw [after_trace, after_trace, Array.map_push, Array.map_push, alike.trace]
    rfl
  bare := by
    -- The places only enter what a bare state leaves out.
    have whole (state : State κ φ) : (state.after setting ⟨place, address, cursor⟩).bare =
        (state.bare.after setting ⟨place, address, cursor⟩).bare := by
      simp only [State.after, absorb_eq, observe_progress]
      rfl
    have mirrored : (other.after (setting.over others) ⟨mirror, address, cursor⟩).bare =
        (other.after setting ⟨place, address, cursor⟩).bare := by
      simp only [State.after, absorb_eq, observe_progress, discovered_over same]
      rfl
    rw [mirrored, whole, whole other, alike.bare]

/-- Whatever one machine does, the other one does at the paired place. -/
theorem Alike.step (same : Interchangeable setting.space.domain setting.space.regions others) {one other : State κ φ}
    (alike : Alike setting others one other) :
    Alike setting others (one.step setting) (other.step (setting.over others)) := by
  have phases := alike.phase
  generalize phase : one.phase = current at phases
  generalize mirror : other.phase = image at phases
  cases phases with
  | done => rwa [step_of_done setting phase, step_of_done (setting.over others) mirror]
  | choosing =>
    rw [choose_eq setting phase, choose_eq (setting.over others) mirror, Setting.over_control, ← alike.clock,
      ← alike.stack]
    split
    next => exact alike.polled.enter .done
    next =>
      cases one.stack with
      | nil => exact alike.polled.enter .done
      | cons start rest => exact alike.popped.begin same start
  | @following place image address paired =>
    rw [follow_eq setting phase, follow_eq (setting.over others) mirror, Setting.over_control, ← alike.clock,
      ← alike.exhausted]
    rcases alike.ahead paired phase mirror with ⟨nothing, missing⟩ | ⟨cursor, ready, waiting⟩
    · rw [nothing, missing]
      exact alike.enter .choosing
    · simp only [ready, waiting, ← alike.visited]
      split
      next => exact alike.polled.enter .done
      next =>
        split
        next => exact (alike.polled.report _).enter .done
        next =>
          split
          next => exact alike.polled.enter .choosing
          next => exact alike.after same paired address cursor

end State

variable {setting others} [DecidableEq φ]

theorem moment_alike (same : Interchangeable setting.space.domain setting.space.regions others) (seeds : List UInt64)
    (time : Nat) :
    State.Alike setting others (moment setting seeds time) (moment (setting.over others) seeds time) := by
  induction time with
  | zero => exact .initial seeds
  | succ time ih =>
    rw [moment_succ, moment_succ]
    exact ih.step same

end Traversal

namespace Space

theorem extent_eq_sum (space : Space) : space.extent = (space.regions.map Region.length).sum := by
  rw [extent, List.sum_eq_foldr, List.foldr_map]

theorem extent_rearranged {domain : Domain} {regions others empties : List Region}
    (hollow : ∀ region ∈ empties, region.length = 0) (rearranged : others.Perm (regions ++ empties)) :
    extent ⟨domain, others⟩ = extent ⟨domain, regions⟩ := by
  have nothing : (empties.map Region.length).sum = 0 := by
    apply List.sum_eq_zero
    intro length listed
    obtain ⟨region, member, rfl⟩ := List.mem_map.mp listed
    exact hollow region member
  rw [extent_eq_sum, extent_eq_sum, (rearranged.map Region.length).sum_eq, List.map_append, List.sum_append, nothing,
    Nat.add_zero]

end Space

namespace Traversal

variable [DecidableEq φ]

/-- The order of regions that do not overlap is irrelevant, and so are empty regions. In whatever
order they are listed, the same instructions are decoded at the same addresses one after the other,
and the traversal counts, reports and ends in the same way. Only the places differ at which the
regions of the instructions are found. -/
theorem region_order_irrelevant (setting : Setting κ φ) (seeds : List UInt64) {others empties : List Region}
    (apart : setting.space.regions.Pairwise (Region.Apart setting.space.domain))
    (hollow : ∀ region ∈ empties, region.length = 0)
    (rearranged : others.Perm (setting.space.regions ++ empties)) :
    (traverse (setting.over others) seeds).trace.map told = (traverse setting seeds).trace.map told ∧
    traverse (setting.over others) seeds =
      { traverse setting seeds with trace := (traverse (setting.over others) seeds).trace } ∧
    (setting.over others).space.extent = setting.space.extent := by
  have same := Interchangeable.of_perm apart hollow rearranged
  have extent : (setting.over others).space.extent = setting.space.extent :=
    Space.extent_rearranged hollow rearranged
  have time : steps (setting.over others) seeds = steps setting seeds := by
    rw [steps, steps, extent]
  have alike := moment_alike same seeds (steps setting seeds)
  have final : finish (setting.over others) seeds = moment (setting.over others) seeds (steps setting seeds) := by
    rw [← time]
    rfl
  have rest := alike.bare
  rw [← final] at alike rest
  refine ⟨?_, ?_, extent⟩
  · have traces := congrArg Array.toList alike.trace
    rw [Array.toList_map, Array.toList_map] at traces
    exact traces.symm
  · have counted := congrArg State.totals rest
    have shown := congrArg (fun state => state.progress.toList) rest
    have logged := congrArg State.log rest
    have raised := congrArg (fun state => state.issues.toList) rest
    have popped := congrArg State.pops rest
    simp only [traverse, Traversal.mk.injEq, true_and]
    exact ⟨counted.symm, alike.phase.outcome.symm, shown.symm, logged.symm, raised.symm, popped.symm⟩

/-- A branch, and the return that it goes to, which lies in another region. -/
def divided : Setting X86.Cursor X86.Extension where
  decoder := X86.decoder .bits64
  space := {
    domain := .rva32
    regions := [{ base := 0x1000, bytes := #[0x74, 0x02] }, { base := 0x1004, bytes := #[0xc3] }] }
  sampled := 3

/-- The regions the other way round, with empty ones before and between them. -/
def dividedAnew : List Region :=
  [{ base := 0x1000, bytes := #[] }, { base := 0x1004, bytes := #[0xc3] }, { base := 0x1004, bytes := #[] },
    { base := 0x1000, bytes := #[0x74, 0x02] }]

theorem divided_anew :
    divided.space.regions.Pairwise (Region.Apart .rva32) ∧
    (∀ region ∈ [{ base := 0x1000, bytes := #[] }, { base := 0x1004, bytes := #[] }], Region.length region = 0) ∧
    dividedAnew.Perm
      (divided.space.regions ++ [{ base := 0x1000, bytes := #[] }, { base := 0x1004, bytes := #[] }]) ∧
    (traverse (divided.over dividedAnew) [0x1000]).trace.map told = (traverse divided [0x1000]).trace.map told := by
  have apart : divided.space.regions.Pairwise (Region.Apart .rva32) := by
    refine List.pairwise_pair.mpr ?_
    rintro address ⟨first, second⟩
    obtain ⟨offset, inside⟩ := Option.isSome_iff_exists.mp first
    obtain ⟨shift, within⟩ := Option.isSome_iff_exists.mp second
    have here := Region.offset_eq_some.mp inside
    have there := Region.offset_eq_some.mp within
    have low : (0x1000 : UInt64).toNat = 0x1000 := rfl
    have high : (0x1004 : UInt64).toNat = 0x1004 := rfl
    simp only [Region.length, List.size_toArray, List.length_cons, List.length_nil, low, high] at here there
    omega
  have hollow : ∀ region ∈ [{ base := 0x1000, bytes := #[] }, { base := 0x1004, bytes := #[] }],
      Region.length region = 0 := by decide
  have rearranged : dividedAnew.Perm
      (divided.space.regions ++ [{ base := 0x1000, bytes := #[] }, { base := 0x1004, bytes := #[] }]) := by decide
  exact ⟨apart, hollow, rearranged, (region_order_irrelevant divided [0x1000] apart hollow rearranged).1⟩

end Traversal

end IsaCensus
