import IsaCensus.Decode.X86.Table
import IsaCensus.Proofs.DecoderLaws

/-! The x86 decoder is lawful, whatever engine knows the instructions, as long as the engine moves the
position and the pointer alike. An engine that knows some encodings does: an encoding is only found
where all its bytes are there, and what no encoding fits is cut off at the end of the bytes, so no
instruction is longer than what is left. -/

namespace IsaCensus.X86

/-- What is relied on of an engine: an instruction has the address that the pointer had, and behind
it come the address that the pointer then has; both marks move by its length; and no engine reads
behind the last byte. -/
structure Engine.Advances {φ : Type} (engine : Engine φ) : Prop where
  address : ∀ mode bytes position pointer, (engine.read mode bytes position pointer).1.address = pointer
  next : ∀ mode bytes position pointer,
    (engine.read mode bytes position pointer).1.next = (engine.read mode bytes position pointer).2.2
  position : ∀ mode bytes position pointer, (engine.read mode bytes position pointer).2.1 =
    position + (engine.read mode bytes position pointer).1.length
  pointer : ∀ mode bytes position pointer, (engine.read mode bytes position pointer).2.2 =
    pointer + (engine.read mode bytes position pointer).1.length.toUInt64
  inside : ∀ mode {bytes : Bytes} {position : Nat} pointer, position ≤ bytes.size →
    (engine.read mode bytes position pointer).2.1 ≤ bytes.size

section
variable {known : List Encoding} {bytes : Bytes} {position : Nat} {mode : Mode} {pointer : UInt64}

theorem startsAt_bound {lead : List UInt8} (nonempty : lead ≠ [])
    (starts : bytes.startsAt position lead = true) : position + lead.length ≤ bytes.size := by
  induction lead generalizing position with
  | nil => exact absurd rfl nonempty
  | cons byte rest ih =>
    simp only [Bytes.startsAt, Bool.and_eq_true, beq_iff_eq] at starts
    obtain ⟨inside, _⟩ := Array.getElem?_eq_some_iff.mp starts.1
    cases rest with
    | nil => exact inside
    | cons next others =>
      have bound := ih (by simp) starts.2
      simp only [List.length_cons] at bound ⊢
      omega

theorem instructionAt_address : (instructionAt known mode bytes position pointer).address = pointer := by
  unfold instructionAt
  split <;> rfl

theorem instructionAt_next : (instructionAt known mode bytes position pointer).next =
    pointer + (instructionAt known mode bytes position pointer).length.toUInt64 := by
  unfold instructionAt
  split <;> rfl

theorem instructionAt_length (inside : position ≤ bytes.size) :
    position + (instructionAt known mode bytes position pointer).length ≤ bytes.size := by
  unfold instructionAt
  split
  next encoding found =>
    have starts := List.find?_some found
    change position + encoding.bytes.length ≤ bytes.size
    by_cases empty : encoding.bytes = []
    · rwa [empty]
    · exact startsAt_bound empty starts
  next =>
    change position + (bytes.size - position) ≤ bytes.size
    omega

end

theorem Engine.ofEncodings_advances (known : Mode → List Encoding) : (ofEncodings known).Advances where
  address _ _ _ _ := instructionAt_address
  next _ _ _ _ := rfl
  position _ _ _ _ := rfl
  pointer _ _ _ _ := instructionAt_next
  inside _ _ _ _ within := instructionAt_length within

theorem tables_advances : tables.Advances := Engine.ofEncodings_advances encodings

section
variable {φ : Type} {engine : Engine φ} {mode : Mode} {bytes : Bytes} {base : UInt64} {position offset : Nat}

/-- A seek inside the bytes sets position and pointer together. -/
theorem seek_inside (inside : offset < bytes.size) :
    (engine.decoder mode).seek { mode, bytes, base, position } offset =
      (true, { mode, bytes, base, position := offset }) := by
  simp only [Engine.decoder, Cursor.place?, Nat.not_le_of_lt inside, Nat.le_of_lt inside, if_true, if_false]

theorem seek_outside (outside : bytes.size ≤ offset) :
    (engine.decoder mode).seek { mode, bytes, base, position } offset = (false, { mode, bytes, base, position }) :=
  if_pos outside

theorem seek_accepted :
    ((engine.decoder mode).seek { mode, bytes, base, position } offset).1 = true ↔ offset < bytes.size := by
  rcases Nat.lt_or_ge offset bytes.size with inside | outside
  · rw [seek_inside inside]
    exact iff_of_true rfl inside
  · rw [seek_outside outside]
    exact iff_of_false Bool.false_ne_true (Nat.not_lt_of_le outside)

namespace Engine.Advances

theorem decode_address (advances : engine.Advances) (cursor : Cursor) :
    ((engine.decoder mode).decode cursor).1.address = cursor.pointer :=
  advances.address ..

theorem decode_next (advances : engine.Advances) (cursor : Cursor) : ((engine.decoder mode).decode cursor).1.next =
    ((engine.decoder mode).decode cursor).1.address + ((engine.decoder mode).decode cursor).1.length.toUInt64 := by
  rw [advances.decode_address]
  exact (advances.next ..).trans (advances.pointer ..)

theorem decode_inside (advances : engine.Advances) (inside : position ≤ bytes.size) :
    position + ((engine.decoder mode).decode { mode, bytes, base, position }).1.length ≤ bytes.size := by
  have read := advances.inside mode (base + position.toUInt64) inside
  rwa [advances.position] at read

/-- A pointer to the position still points to it when both have moved on. -/
theorem decode_moves (advances : engine.Advances) :
    ((engine.decoder mode).decode { mode, bytes, base, position }).2 = { mode, bytes, base, position := position +
      ((engine.decoder mode).decode { mode, bytes, base, position }).1.length } := by
  simp only [decoder, advances.position, advances.pointer, Cursor.mk.injEq, true_and]
  exact (UInt64.add_assoc ..).trans (congrArg (base + ·) (UInt64.ofNat_add ..).symm)

/-- As the pointer follows from the position, what is decoded depends on the position alone. -/
def lawful (advances : engine.Advances) (mode : Mode) : (engine.decoder mode).Lawful where
  Stands bytes base position cursor := cursor = { mode, bytes, base, position }
  opened bytes base := by
    have start : base + (0 : Nat).toUInt64 = base := UInt64.add_zero base
    simp only [decoder, start]
  seek_accepts := by
    rintro bytes base position cursor offset rfl
    exact seek_accepted
  seek_moves := by
    rintro bytes base position cursor offset rfl inside
    rw [seek_inside inside]
  decode_address := by
    rintro bytes base position cursor rfl inside
    exact advances.decode_address _
  decode_length := by
    rintro bytes base position cursor rfl inside
    exact advances.decode_inside (Nat.le_of_lt inside)
  decode_next := by
    rintro bytes base position cursor rfl inside
    exact advances.decode_next _
  decode_moves := by
    rintro bytes base position cursor rfl inside
    exact advances.decode_moves
  hasRemaining_iff := by
    rintro bytes base position cursor rfl
    exact decide_eq_true_iff
  reading bytes base position := (engine.read mode bytes position (base + position.toUInt64)).1
  decode_reads := by
    rintro bytes base position cursor rfl inside
    rfl

end Engine.Advances

end

def lawful (mode : Mode) : (decoder mode).Lawful := tables_advances.lawful mode

end IsaCensus.X86
