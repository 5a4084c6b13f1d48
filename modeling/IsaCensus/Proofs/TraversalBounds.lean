import Mathlib.Data.FinEnum
import Mathlib.Data.Fintype.Card
import IsaCensus.Proofs.Addresses
import IsaCensus.Proofs.TraversalRuns

/-! A traversal stops, whatever its decoder answers. Only addresses that resolve are ever
followed or put on the stack by the machine itself, each of them once, and there are no more
of these than there are bytes. No law of the decoder is used. -/

namespace IsaCensus

namespace Space

/-- The addresses of the domain that lie in a region. -/
def covered (space : Space) : Finset UInt64 :=
  Finset.univ.filter fun address => space.domain.normalize address = address ∧ space.contains address = true

theorem mem_covered {space : Space} {address : UInt64} :
    address ∈ space.covered ↔ space.domain.normalize address = address ∧ space.contains address = true := by
  simp only [covered, Finset.mem_filter, Finset.mem_univ, true_and]

theorem normalize_mem_covered {space : Space} {address : UInt64} (inside : space.contains address = true) :
    space.domain.normalize address ∈ space.covered :=
  mem_covered.mpr ⟨space.domain.normalize_normalize address, by rw [contains_normalize]; exact inside⟩

private theorem card_inside_le (region : Region) :
    (Finset.univ.filter fun address => (region.offset? address).isSome = true).card ≤ region.length := by
  rw [← Finset.card_range region.length]
  apply Finset.card_le_card_of_injOn fun address => address.toNat - region.base.toNat
  · intro address member
    obtain ⟨offset, found⟩ := Option.isSome_iff_exists.mp (Finset.mem_filter.mp member).2
    have place := Region.offset_eq_some.mp found
    rw [Finset.coe_range]
    change address.toNat - region.base.toNat < region.length
    omega
  · intro first member second other same
    obtain ⟨offset, found⟩ := Option.isSome_iff_exists.mp (Finset.mem_filter.mp member).2
    obtain ⟨place, located⟩ := Option.isSome_iff_exists.mp (Finset.mem_filter.mp other).2
    have one := (Region.offset_eq_some.mp found).1
    have two := (Region.offset_eq_some.mp located).1
    apply UInt64.toNat_inj.mp
    simp only at same
    omega

private theorem card_located_le (regions : List Region) :
    (Finset.univ.filter fun address => (locate regions address).isSome = true).card ≤
      regions.foldr (fun region total => region.length + total) 0 := by
  induction regions with
  | nil => simp [locate]
  | cons region rest ih =>
    have split : (Finset.univ.filter fun address => (locate (region :: rest) address).isSome = true) ⊆
        (Finset.univ.filter fun address => (region.offset? address).isSome = true) ∪
          Finset.univ.filter fun address => (locate rest address).isSome = true := by
      intro address member
      have located := (Finset.mem_filter.mp member).2
      rw [Finset.mem_union, Finset.mem_filter, Finset.mem_filter]
      cases inside : region.offset? address with
      | some offset => exact .inl ⟨Finset.mem_univ address, rfl⟩
      | none =>
        rw [locate, inside, Option.isSome_map] at located
        exact .inr ⟨Finset.mem_univ address, located⟩
    calc (Finset.univ.filter fun address => (locate (region :: rest) address).isSome = true).card
        ≤ _ := Finset.card_le_card split
      _ ≤ _ := Finset.card_union_le _ _
      _ ≤ _ := Nat.add_le_add (card_inside_le region) ih

theorem card_covered_le (space : Space) : space.covered.card ≤ space.extent := by
  refine Nat.le_trans (Finset.card_le_card ?_) (card_located_le space.regions)
  intro address member
  obtain ⟨normal, inside⟩ := mem_covered.mp member
  rw [contains, resolve, normal] at inside
  exact Finset.mem_filter.mpr ⟨Finset.mem_univ address, inside⟩

end Space

namespace Traversal

variable {κ φ : Type} (setting : Setting κ φ)

/-- The number of addresses in the regions that are not in a set. -/
def missing (known : Std.HashSet UInt64) : Nat := (setting.space.covered.filter (· ∉ known)).card

theorem missing_le (known : Std.HashSet UInt64) : missing setting known ≤ setting.space.covered.card :=
  Finset.card_filter_le _ _

theorem missing_lt {known larger : Std.HashSet UInt64} {address : UInt64}
    (inside : address ∈ setting.space.covered) (fresh : address ∉ known) (added : address ∈ larger)
    (grows : ∀ address ∈ known, address ∈ larger) : missing setting larger < missing setting known := by
  apply Finset.card_lt_card
  refine ⟨?_, ?_⟩
  · intro other member
    obtain ⟨inside, absent⟩ := Finset.mem_filter.mp member
    exact Finset.mem_filter.mpr ⟨inside, fun present => absent (grows other present)⟩
  · intro subset
    exact (Finset.mem_filter.mp (subset (Finset.mem_filter.mpr ⟨inside, fresh⟩))).2 added

namespace State

/-- What keeps a traversal bounded: the address it follows is one that resolves, and every
decoded or queued address has been taken from a supply that does not grow. -/
structure Bounded (seeds : Nat) (state : State κ φ) : Prop where
  followed : ∀ {region address}, state.phase = .following region address → address ∈ setting.space.covered
  decoded : state.trace.size + missing setting state.visited ≤ setting.space.covered.card
  taken : state.pops + state.stack.length + missing setting state.queued ≤ seeds + setting.space.covered.card
  counted : state.totals.instructions = state.trace.size

/-- An upper bound on the number of steps that are left. An address that waits or may still be
queued counts twice, for the step that begins its path and for the one that ends it. -/
def rank (state : State κ φ) : Nat :=
  match state.phase with
  | .done _ => 0
  | .choosing => 2 * (state.stack.length + missing setting state.queued) + missing setting state.visited + 1
  | .following .. => 2 * (state.stack.length + missing setting state.queued) + missing setting state.visited + 2

theorem Bounded.initial (seeds : List UInt64) :
    Bounded setting seeds.length (State.initial (κ := κ) setting seeds) where
  followed following := by cases following
  decoded := by simpa [State.initial] using missing_le setting {}
  taken := by simpa [State.initial] using missing_le setting _
  counted := rfl

variable [DecidableEq φ]

theorem after_supply (state : State κ φ) (call : Call κ) :
    (state.after setting call).stack.length + missing setting (state.after setting call).queued ≤
      state.stack.length + missing setting state.queued := by
  rw [after_stack, after_queued]
  cases found : discovered? setting (state.after setting call).visited state.queued (call.instruction setting) with
  | none => exact Nat.le_refl _
  | some address =>
    obtain ⟨_, target, _, rfl, inside, _, fresh⟩ := (discovered_eq_some setting).mp found
    have less : missing setting (state.queued.insert (normalize setting target)) < missing setting state.queued :=
      missing_lt setting (Space.mem_covered.mpr ⟨Domain.normalize_normalize _ _, inside⟩) fresh
        Std.HashSet.mem_insert_self (fun _ known => Std.HashSet.mem_insert.mpr (.inr known))
    simp only [Option.toList_some, List.singleton_append, List.length_cons, Option.elim_some]
    omega

theorem after_fresh {state : State κ φ} {call : Call κ} {seeds : Nat} (bounded : state.Bounded setting seeds)
    (called : state.call? setting = some call) :
    missing setting (state.after setting call).visited < missing setting state.visited := by
  obtain ⟨ahead, _, _, fresh⟩ := (call_eq_some setting).mp called
  have inside := bounded.followed ((ahead_eq_some setting).mp ahead).1
  apply missing_lt setting inside fresh
  · exact (mem_after_visited setting state call).mpr (.inl rfl)
  · intro address known
    exact (mem_after_visited setting state call).mpr (.inr (.inr known))

theorem after_covered {state : State κ φ} {call : Call κ} {region : Nat} {address : UInt64}
    (following : (state.after setting call).phase = .following region address) :
    address ∈ setting.space.covered := by
  rw [after_phase] at following
  split at following
  next goes =>
    cases following
    simp only [continues, Bool.and_eq_true, Option.any_eq_true] at goes
    obtain ⟨_, location, found, _⟩ := goes
    exact Space.normalize_mem_covered (Space.contains_of_resolve found)
  next => cases following

theorem Bounded.move {seeds : Nat} {before after : State κ φ} (bounded : before.Bounded setting seeds)
    (move : Move setting before after) : after.Bounded setting seeds := by
  have shorter {start : UInt64} {rest : List UInt64} (top : before.stack = start :: rest) :
      before.pops + 1 + before.stack.tail.length + missing setting before.queued ≤
        seeds + setting.space.covered.card := by
    have taken := bounded.taken
    rw [top, List.length_cons] at taken
    rw [top, List.tail_cons]
    omega
  cases move with
  | rest => exact bounded
  | cancel | complete | leave | exhaust | join =>
    exact ⟨nofun, bounded.decoded, bounded.taken, bounded.counted⟩
  | skip choosing _ top | miss choosing _ top | lack choosing _ top =>
    refine ⟨?_, bounded.decoded, shorter top, bounded.counted⟩
    intro region address following
    cases choosing.symm.trans following
  | start choosing _ top _ found =>
    refine ⟨?_, bounded.decoded, shorter top, bounded.counted⟩
    intro region address following
    simp only at following
    split at following
    next =>
      cases following
      exact Space.normalize_mem_covered
        ((Space.contains_normalize _ _).symm.trans (Space.contains_of_resolve found))
    next => cases following
  | @decode call called =>
    have fresh := after_fresh setting bounded called
    have supply := after_supply setting before call
    have decoded := bounded.decoded
    have taken := bounded.taken
    refine ⟨fun following => after_covered setting following, ?_, ?_, ?_⟩
    · rw [after_trace, Array.size_push]
      omega
    · rw [after_pops]
      omega
    · rw [after_totals, after_trace, Array.size_push, ← bounded.counted]
      rfl

theorem rank_move {seeds : Nat} {before after : State κ φ} (bounded : before.Bounded setting seeds)
    (running : ∀ outcome, before.phase ≠ .done outcome) (move : Move setting before after) :
    after.rank setting < before.rank setting := by
  cases move with
  | rest stopped => exact absurd stopped (running _)
  | cancel | complete | exhaust =>
    cases phase : before.phase with
    | done outcome => exact absurd phase (running outcome)
    | choosing | following => simp [rank, phase, enter]
  | leave following => simp [rank, following, enter]
  | join ahead => simp [rank, ((ahead_eq_some setting).mp ahead).1, enter, polled]
  | skip choosing _ top | lack choosing _ top =>
    simp only [rank, popped, polled, choosing, top, List.tail_cons, List.length_cons]
    omega
  | miss choosing _ top =>
    simp only [rank, report, popped, polled, choosing, top, List.tail_cons, List.length_cons]
    omega
  | @start _ _ location cursor choosing _ top =>
    simp only [rank, popped, polled, choosing, top, List.tail_cons, List.length_cons]
    cases (setting.decoder.seek cursor location.offset).1 with
    | true => simp only [if_true]; omega
    | false => simp only [Bool.false_eq_true, if_false]; omega
  | @decode call called =>
    have fresh := after_fresh setting bounded called
    have supply := after_supply setting before call
    have following := call_following setting called
    simp only [rank, following]
    split <;> omega

theorem run_stops {seeds : Nat} {state : State κ φ} (bounded : state.Bounded setting seeds) {time : Nat}
    (enough : state.rank setting ≤ time) : ∃ outcome, (state.run setting time).phase = .done outcome := by
  induction time generalizing state with
  | zero =>
    cases phase : state.phase with
    | done outcome => exact ⟨outcome, phase⟩
    | choosing | following => simp only [rank, phase] at enough; omega
  | succ time ih =>
    cases phase : state.phase with
    | done outcome => exact ⟨outcome, by rw [run_of_done setting phase]; exact phase⟩
    | choosing | following =>
      have move := step_move setting state
      have less := rank_move setting bounded (by rw [phase]; exact nofun) move
      rw [run_next]
      exact ih (bounded.move setting move) (by omega)

end State

variable [DecidableEq φ]

theorem bounded_moment (seeds : List UInt64) (time : Nat) :
    (moment setting seeds time).Bounded setting seeds.length :=
  moment_keeps setting (.initial setting seeds) (fun _ _ bounded move => bounded.move setting move) time

/-- The number of steps that a traversal is given is enough for it to stop by itself. -/
theorem finish_done (seeds : List UInt64) : ∃ outcome, (finish setting seeds).phase = .done outcome := by
  apply State.run_stops setting (.initial setting seeds)
  have queued := missing_le setting (State.initial (κ := κ) setting seeds).queued
  have visited := missing_le setting (State.initial (κ := κ) setting seeds).visited
  have supply := Space.card_covered_le setting.space
  simp only [State.rank, State.initial, steps] at queued visited ⊢
  omega

/-- A traversal comes to its end with every decoder: one that keeps any state, lies about
addresses, makes no progress or never runs out of bytes. It calls the decoder at most once for
each address that resolves, and takes no more addresses off the stack than there are seeds and
such addresses. Decoders whose cursors share state are included, because in one run the answers
of each cursor are a script of its own. -/
theorem traverse_bounded (seeds : List UInt64) :
    (∃ outcome, (finish setting seeds).phase = .done outcome) ∧
    (∀ time, steps setting seeds ≤ time → moment setting seeds time = finish setting seeds) ∧
    (calls setting seeds).length ≤ setting.space.covered.card ∧
    (traverse setting seeds).totals.instructions = (calls setting seeds).length ∧
    (traverse setting seeds).totals.instructions ≤ setting.space.extent ∧
    (traverse setting seeds).pops ≤ seeds.length + setting.space.covered.card := by
  have bounded := bounded_moment setting seeds (steps setting seeds)
  have asked : (finish setting seeds).trace.size = (calls setting seeds).length := by
    have trace := congrArg List.length (trace_calls setting seeds)
    rw [List.length_map] at trace
    exact trace
  have few : (calls setting seeds).length ≤ setting.space.covered.card :=
    asked ▸ Nat.le_of_add_right_le bounded.decoded
  have counted : (traverse setting seeds).totals.instructions = (calls setting seeds).length :=
    bounded.counted.trans asked
  obtain ⟨outcome, stopped⟩ := finish_done setting seeds
  refine ⟨⟨outcome, stopped⟩, ?_, few, counted, ?_, ?_⟩
  · intro time enough
    exact moment_of_done setting enough stopped
  · exact counted ▸ Nat.le_trans few (Space.card_covered_le setting.space)
  · have taken := bounded.taken
    change (moment setting seeds (steps setting seeds)).pops ≤ _
    omega

end Traversal

end IsaCensus
