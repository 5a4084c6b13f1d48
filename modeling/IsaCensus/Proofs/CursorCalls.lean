import IsaCensus.Proofs.X86Laws

/-! Any calls on one x86 cursor. Its answers tell where it stands: a seek that is accepted goes to the
offset, and a decoded instruction is passed by its length. That place in the bytes decides all further
answers, so it is the same how the cursor came there and which seeks it refused on the way. -/

namespace IsaCensus

namespace Decoder

inductive Call
  | seek (offset : Nat)
  | hasRemaining
  | decode

inductive Answer (φ : Type)
  | sought (accepted : Bool)
  | remaining (more : Bool)
  | decoded (instruction : Instruction φ)

variable {κ φ : Type} (decoder : Decoder κ φ)

def answer (cursor : κ) : Call → Answer φ × κ
  | .seek offset => (.sought (decoder.seek cursor offset).1, (decoder.seek cursor offset).2)
  | .hasRemaining => (.remaining (decoder.hasRemaining cursor), cursor)
  | .decode => (.decoded (decoder.decode cursor).1, (decoder.decode cursor).2)

def answers (cursor : κ) : List Call → List (Answer φ)
  | [] => []
  | call :: later => (decoder.answer cursor call).1 :: answers (decoder.answer cursor call).2 later

/-- The cursor after some calls. -/
def after (cursor : κ) (calls : List Call) : κ :=
  calls.foldl (fun cursor call => (decoder.answer cursor call).2) cursor

/-- The position after a call, as its answer tells it. -/
def Answer.move (position : Nat) : Call → Answer φ → Nat
  | .seek offset, .sought true => offset
  | _, .decoded instruction => position + instruction.length
  | _, _ => position

/-- The position after some calls, as their answers tell it. -/
def told (cursor : κ) (position : Nat) : List Call → Nat
  | [] => position
  | call :: later =>
    told (decoder.answer cursor call).2 ((decoder.answer cursor call).1.move position call) later

end Decoder

namespace X86

open Decoder

/-- A cursor at a position of the bytes, which are loaded at the base. -/
structure Cursor.Stands {φ : Type} (decoder : Decoder Cursor φ) (bytes : Bytes) (base : UInt64) (position : Nat)
    (cursor : Cursor) : Prop where
  here : cursor.position = position
  inside : position ≤ bytes.size
  accepts : ∀ offset, (decoder.seek cursor offset).1 = true ↔ offset < bytes.size
  goes : ∀ offset, offset < bytes.size → (decoder.seek cursor offset).2.position = offset
  stays : ∀ offset, bytes.size ≤ offset → ∀ later,
    decoder.answers (decoder.seek cursor offset).2 later = decoder.answers cursor later
  remaining : decoder.hasRemaining cursor = true ↔ position < bytes.size
  address : (decoder.decode cursor).1.address = base + position.toUInt64
  next : (decoder.decode cursor).1.next =
    (decoder.decode cursor).1.address + (decoder.decode cursor).1.length.toUInt64
  length : (decoder.decode cursor).1.length ≤ bytes.size - position
  passes : (decoder.decode cursor).2.position = position + (decoder.decode cursor).1.length

namespace Engine.Advances

variable {φ : Type} {engine : Engine φ} {mode : Mode} {bytes : Bytes} {base : UInt64} {position : Nat}

theorem stands (advances : engine.Advances) (inside : position ≤ bytes.size) :
    Cursor.Stands (engine.decoder mode) bytes base position { mode, bytes, base, position } where
  here := rfl
  inside := inside
  accepts _ := seek_accepted
  goes offset within := by rw [seek_inside within]
  stays offset outside later := by rw [seek_outside outside]
  remaining := decide_eq_true_iff
  address := advances.decode_address _
  next := advances.decode_next _
  length := Nat.le_sub_of_add_le' (advances.decode_inside inside)
  passes := by rw [advances.decode_moves]

/-- A call leaves the cursor where its answer says, and the pointer at that place. -/
theorem answer_moves (advances : engine.Advances) (inside : position ≤ bytes.size) (call : Call) :
    let answer := (engine.decoder mode).answer { mode, bytes, base, position } call
    answer.1.move position call ≤ bytes.size ∧
      answer.2 = { mode, bytes, base, position := answer.1.move position call } := by
  cases call with
  | seek offset =>
    rcases Nat.lt_or_ge offset bytes.size with within | outside
    · rw [answer, seek_inside within]
      exact ⟨Nat.le_of_lt within, rfl⟩
    · rw [answer, seek_outside outside]
      exact ⟨inside, rfl⟩
  | hasRemaining => exact ⟨inside, rfl⟩
  | decode => exact ⟨advances.decode_inside inside, advances.decode_moves⟩

theorem calls_move (advances : engine.Advances) (inside : position ≤ bytes.size) (calls : List Call) :
    let told := (engine.decoder mode).told { mode, bytes, base, position } position calls
    told ≤ bytes.size ∧
      (engine.decoder mode).after { mode, bytes, base, position } calls = { mode, bytes, base, position := told } := by
  induction calls generalizing position with
  | nil => exact ⟨inside, rfl⟩
  | cons call later ih =>
    obtain ⟨within, moved⟩ := @answer_moves _ engine mode bytes base position advances inside call
    have rest := ih within
    simp only [told, after, List.foldl_cons] at rest ⊢
    rw [moved]
    exact rest

end Engine.Advances

/-- However a cursor is used, it stands where its answers told, and everything it answers from there on
depends on that position alone. -/
theorem cursor_answers_by_position {φ : Type} {engine : Engine φ} (advances : engine.Advances) (mode : Mode)
    (bytes : Bytes) (base : UInt64) (calls : List Call) :
    let decoder := engine.decoder mode
    let start := decoder.cursor bytes base
    Cursor.Stands decoder bytes base (decoder.told start 0 calls) (decoder.after start calls) ∧
    ∀ others, decoder.told start 0 others = decoder.told start 0 calls → ∀ later,
      decoder.answers (decoder.after start others) later = decoder.answers (decoder.after start calls) later := by
  intro decoder start
  have opened : start = { mode, bytes, base, position := 0 } := (advances.lawful mode).opened bytes base
  have moved (calls : List Call) := @Engine.Advances.calls_move _ engine mode bytes base 0 advances (Nat.zero_le _) calls
  simp only [← opened] at moved
  obtain ⟨inside, here⟩ := moved calls
  refine ⟨?_, ?_⟩
  · rw [here]
    exact advances.stands inside
  · intro others same later
    rw [(moved others).2, here, same]

/-- The address space ends inside these bytes, and the bytes end inside an instruction. -/
theorem cut_off_behind_end :
    tables.Advances ∧
    ∃ cursor, Cursor.Stands (decoder .bits64) #[0x90, 0x66, 0x90, 0x0f] 0xffffffffffffffff 3 cursor ∧
      ((decoder .bits64).decode cursor).1.address = 2 ∧ ((decoder .bits64).decode cursor).1.length ≤ 1 := by
  obtain ⟨stands, _⟩ := cursor_answers_by_position tables_advances .bits64 #[0x90, 0x66, 0x90, 0x0f]
    0xffffffffffffffff [.seek 1, .decode, .seek 9]
  exact ⟨tables_advances, _, stands, stands.address, stands.length⟩

end X86

end IsaCensus
