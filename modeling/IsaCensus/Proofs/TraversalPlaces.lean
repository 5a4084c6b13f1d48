import IsaCensus.Proofs.Addresses
import IsaCensus.Proofs.DecoderLaws
import IsaCensus.Proofs.TraversalRuns
import IsaCensus.Proofs.X86Laws

/-! Where a traversal decodes. The cursor of a region moves on by itself while the address of
a path is computed from what was decoded. With a decoder whose cursors can be tracked the two
stay together, so each address is decoded where it resolves to, and only once. -/

namespace IsaCensus.Traversal

variable {κ φ : Type} {setting : Setting κ φ}

/-- The cursor stands where the address resolves to: in the first region that holds it, as
many bytes behind the base as the address is. -/
def Call.InPlace (tracked : setting.decoder.Tracked) (call : Call κ) : Prop :=
  normalize setting call.address = call.address ∧
  ∃ offset region, setting.space.resolve call.address = some ⟨call.region, offset⟩ ∧
    FirstAt setting.space.regions call.address ⟨call.region, offset⟩ region ∧
    tracked.Stands region.bytes region.base offset call.cursor

namespace Call

theorem InPlace.of_resolve {tracked : setting.decoder.Tracked} {address : UInt64} {location : Location} {cursor : κ}
    (normal : normalize setting address = address) (found : setting.space.resolve address = some location)
    (stands : ∀ region, setting.space.regions[location.region]? = some region →
      tracked.Stands region.bytes region.base location.offset cursor) :
    InPlace tracked ⟨location.region, address, cursor⟩ := by
  obtain ⟨region, first⟩ := Space.resolve_first found
  exact ⟨normal, location.offset, region, found, normal ▸ first, stands region first.listed⟩

theorem InPlace.instruction_address {tracked : setting.decoder.Tracked} {call : Call κ}
    (placed : call.InPlace tracked) : (call.instruction setting).address = call.address := by
  obtain ⟨_, offset, region, _, first, stands⟩ := placed
  have inside := Region.offset_lt first.inside
  exact (tracked.decode_address stands inside).trans (Region.base_add_offset first.inside)

/-- A path that goes on finds its cursor where the next address resolves to. -/
theorem InPlace.next {tracked : setting.decoder.Tracked} {call : Call κ} (fits : setting.space.Fits)
    (placed : call.InPlace tracked)
    (goes : State.continues setting call.region (call.instruction setting) = true) :
    InPlace tracked ⟨call.region, normalize setting (call.instruction setting).next,
      (setting.decoder.decode call.cursor).2⟩ := by
  have address := placed.instruction_address
  obtain ⟨_, offset, region, _, first, stands⟩ := placed
  have inside := Region.offset_lt first.inside
  simp only [State.continues, Bool.and_eq_true, Option.any_eq_true, beq_iff_eq] at goes
  obtain ⟨_, location, found, same⟩ := goes
  have next : (call.instruction setting).next = call.address + (call.instruction setting).length.toUInt64 := by
    rw [← address]
    exact tracked.decode_next stands inside
  have advanced : location.offset = offset + (call.instruction setting).length :=
    Space.resolve_advance fits first (tracked.decode_length stands inside) (next ▸ found) same
  rw [← same]
  apply InPlace.of_resolve (Domain.normalize_normalize _ _) ((Space.resolve_normalize _ _).trans found)
  intro holder listed
  rw [same, first.listed, Option.some_inj] at listed
  subst listed
  rw [advanced]
  exact tracked.decode_moves stands inside

end Call

namespace State

/-- Every cursor is over the bytes of its region, the path that is followed is in place, and
the visited addresses are those of the instructions, which are all different. -/
structure Placed (tracked : setting.decoder.Tracked) (state : State κ φ) : Prop where
  held : ∀ {index : Nat} {region : Region}, setting.space.regions[index]? = some region →
    ∃ cursor position, state.cursors[index]? = some cursor ∧ tracked.Stands region.bytes region.base position cursor
  followed : ∀ {region address}, state.phase = .following region address →
    ∃ cursor, state.cursors[region]? = some cursor ∧ Call.InPlace tracked ⟨region, address, cursor⟩
  logged : ∀ {address}, address ∈ state.visited ↔ ∃ visit ∈ state.trace, visit.instruction.address = address
  normal : ∀ visit ∈ state.trace, normalize setting visit.instruction.address = visit.instruction.address
  distinct : (state.trace.toList.map fun visit => visit.instruction.address).Nodup

theorem Placed.initial (tracked : setting.decoder.Tracked) (seeds : List UInt64) :
    (State.initial setting seeds).Placed tracked where
  held {index region} listed := by
    refine ⟨setting.decoder.cursor region.bytes region.base, 0, ?_, tracked.opened _ _⟩
    simp [State.initial, listed]
  followed following := by cases following
  logged := by simp [State.initial]
  normal visit member := by cases Array.not_mem_empty visit member
  distinct := List.nodup_nil

theorem Placed.call {tracked : setting.decoder.Tracked} {state : State κ φ} (placed : state.Placed tracked)
    {call : Call κ} (called : state.call? setting = some call) : call.InPlace tracked := by
  obtain ⟨ahead, _⟩ := (call_eq_some setting).mp called
  obtain ⟨following, held, _⟩ := (ahead_eq_some setting).mp ahead
  obtain ⟨cursor, found, inPlace⟩ := placed.followed following
  cases held.symm.trans found
  exact inPlace

private theorem replaced {cursors : Array κ} {place : Nat} {cursor : κ} (held : cursors[place]? = some cursor)
    (moved : κ) : (cursors.setIfInBounds place moved)[place]? = some moved := by
  rw [Array.getElem?_setIfInBounds_self]
  exact if_pos (Array.getElem?_eq_some_iff.mp held).1

theorem Placed.move_cursor {tracked : setting.decoder.Tracked} {state : State κ φ} (placed : state.Placed tracked)
    {place : Nat} {holder : Region} {position : Nat} {moved : κ}
    (at_place : setting.space.regions[place]? = some holder)
    (stands : tracked.Stands holder.bytes holder.base position moved)
    {index : Nat} {region : Region} (listed : setting.space.regions[index]? = some region) :
    ∃ cursor position, (state.cursors.setIfInBounds place moved)[index]? = some cursor ∧
      tracked.Stands region.bytes region.base position cursor := by
  obtain ⟨cursor, former, found, before⟩ := placed.held listed
  by_cases same : place = index
  · subst same
    cases at_place.symm.trans listed
    exact ⟨moved, position, replaced found moved, stands⟩
  · refine ⟨cursor, former, ?_, before⟩
    rw [Array.getElem?_setIfInBounds_ne same]
    exact found

variable [DecidableEq φ]

theorem Placed.move {tracked : setting.decoder.Tracked} (fits : setting.space.Fits) {before after : State κ φ}
    (placed : before.Placed tracked) (move : Move setting before after) : after.Placed tracked := by
  cases move with
  | rest => exact placed
  | cancel | complete | leave | exhaust | join =>
    exact ⟨placed.held, nofun, placed.logged, placed.normal, placed.distinct⟩
  | skip choosing | miss choosing | lack choosing =>
    refine ⟨placed.held, ?_, placed.logged, placed.normal, placed.distinct⟩
    intro region address following
    cases choosing.symm.trans following
  | @start start _ location cursor choosing _ _ _ found held =>
    obtain ⟨holder, first⟩ := Space.resolve_first found
    obtain ⟨former, position, present, stood⟩ := placed.held first.listed
    cases held.symm.trans present
    have inside := Region.offset_lt first.inside
    have stands := tracked.seek_moves stood inside
    refine ⟨fun listed => placed.move_cursor first.listed stands listed, ?_,
      placed.logged, placed.normal, placed.distinct⟩
    intro region address following
    simp only [(tracked.seek_accepts location.offset stood).mpr inside, if_true, Phase.following.injEq] at following
    obtain ⟨rfl, rfl⟩ := following
    refine ⟨(setting.decoder.seek cursor location.offset).2, replaced held _,
      .of_resolve (Domain.normalize_normalize _ _) found ?_⟩
    intro region listed
    cases first.listed.symm.trans listed
    exact stands
  | @decode call called =>
    have inPlace := placed.call called
    obtain ⟨ahead, _, _, fresh⟩ := (call_eq_some setting).mp called
    have held := ((ahead_eq_some setting).mp ahead).2.1
    have same := inPlace.instruction_address
    refine ⟨?_, ?_, ?_, ?_, ?_⟩
    · intro index region listed
      obtain ⟨_, offset, holder, _, first, stands⟩ := inPlace
      rw [after_cursors]
      exact placed.move_cursor first.listed
        (tracked.decode_moves stands (Region.offset_lt first.inside)) listed
    · intro region address following
      rw [after_phase] at following
      split at following
      next goes =>
        cases following
        rw [after_cursors]
        exact ⟨_, replaced held _, inPlace.next fits goes⟩
      next => cases following
    · intro address
      rw [mem_after_visited, after_trace, same, inPlace.1, placed.logged]
      simp only [Array.mem_push, or_and_right, exists_or, exists_eq_left, Call.visit, same]
      grind
    · intro visit member
      rw [after_trace, Array.mem_push] at member
      rcases member with old | rfl
      · exact placed.normal visit old
      · simp only [Call.visit, same, inPlace.1]
    · rw [after_trace, Array.toList_push, List.map_append, List.nodup_append]
      refine ⟨placed.distinct, List.pairwise_singleton _ _, ?_⟩
      intro address member other single equal
      obtain ⟨visit, present, rfl⟩ := List.mem_map.mp member
      have last : other = call.address := (List.mem_singleton.mp single).trans same
      exact fresh (placed.logged.mpr ⟨visit, Array.mem_toList_iff.mp present, equal.trans last⟩)

end State

variable [DecidableEq φ]

theorem placed_moment (tracked : setting.decoder.Tracked) (fits : setting.space.Fits) (seeds : List UInt64)
    (time : Nat) : (moment setting seeds time).Placed tracked :=
  moment_keeps setting (.initial tracked seeds) (fun _ _ placed move => placed.move fits move) time

/-- No address is decoded twice, and each decoding takes place where the address resolves to,
in the first region that holds it. This also holds of code that is reached by running on
inside a later region that overlaps an earlier one, however the run is limited. -/
theorem decoded_once_in_place (tracked : setting.decoder.Tracked) (fits : setting.space.Fits) (seeds : List UInt64) :
    ((traverse setting seeds).trace.map fun visit => normalize setting visit.instruction.address).Nodup ∧
    (traverse setting seeds).trace = (calls setting seeds).map (Call.visit setting) ∧
    ∀ call ∈ calls setting seeds, (call.instruction setting).address = call.address ∧
      ∃ offset region, setting.space.resolve (call.instruction setting).address = some ⟨call.region, offset⟩ ∧
        FirstAt setting.space.regions (normalize setting (call.instruction setting).address)
          ⟨call.region, offset⟩ region ∧
        tracked.Stands region.bytes region.base offset call.cursor := by
  have placed := placed_moment tracked fits seeds (steps setting seeds)
  refine ⟨?_, trace_calls setting seeds, ?_⟩
  · have same : ((traverse setting seeds).trace.map fun visit => normalize setting visit.instruction.address) =
        (traverse setting seeds).trace.map fun visit => visit.instruction.address :=
      List.map_congr_left fun visit member => placed.normal visit (Array.mem_toList_iff.mp member)
    rw [same]
    exact placed.distinct
  intro call member
  obtain ⟨time, called⟩ := called_of_mem setting member
  have inPlace := (placed_moment tracked fits seeds time).call called
  have same := inPlace.instruction_address
  obtain ⟨normal, offset, region, found, first, stands⟩ := inPlace
  rw [same, normal]
  exact ⟨rfl, offset, region, found, first, stands⟩

/-- Code of which one byte also lies in the region that is listed first. -/
def overlapping : Setting X86.Cursor X86.Extension where
  decoder := X86.decoder .bits64
  space := {
    domain := .rva32
    regions := [{ base := 0x1003, bytes := #[0xc3] },
      { base := 0x1000, bytes := #[0x90, 0x74, 0x02, 0x90, 0x90, 0xc3] }] }
  sampled := 7

theorem overlapping_in_place :
    overlapping.space.Fits ∧
    ∀ call ∈ calls overlapping [0x1000, 0x100001000],
      overlapping.space.resolve call.address = some ⟨call.region, call.cursor.position⟩ := by
  have fits : overlapping.space.Fits := by decide
  refine ⟨fits, ?_⟩
  intro call member
  obtain ⟨_, _, inPlace⟩ := @decoded_once_in_place _ _ overlapping _ (X86.lawful .bits64).toTracked fits
    [0x1000, 0x100001000]
  obtain ⟨same, offset, region, found, _, stands⟩ := inPlace call member
  have position : call.cursor.position = offset := congrArg X86.Cursor.position stands
  rw [position, ← same]
  exact found

end IsaCensus.Traversal
