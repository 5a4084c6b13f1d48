import IsaCensus.Proofs.FrameFields
import IsaCensus.Proofs.HeaderCodes

/-! Frame headers, as they are written. Reading a header gives the functions that its table
describes, up to the limit, in any format and with fields that are relative to where they
stand: the reader is at the position of each field when it comes to it. -/

namespace IsaCensus.Unwind

/-- An entry of a table: the start of a function and the address of its description. -/
structure Entry (frame : Frame) (format : Format) where
  start : Field frame format
  description : Field frame format

def Entry.bytes {frame : Frame} {format : Format} (entry : Entry frame format) : List UInt8 :=
  entry.start.bytes ++ entry.description.bytes

/-- A header, which counts its entries. Its frame pointer may be left out, and its count is
relative to nothing. -/
structure Header (frame : Frame) where
  framePointer : Option ((encoding : Encoding) × Field frame encoding.format)
  countFormat : Format
  count : Field frame countFormat
  encoding : Encoding
  entries : List (Entry frame encoding.format)
  counted : count.number = entries.length

namespace Header
variable {frame : Frame}

def codes (header : Header frame) : List UInt8 :=
  [1, header.framePointer.elim 0xff (·.1.code), Encoding.code ⟨header.countFormat, .absolute⟩,
    header.encoding.code]

/-- What comes before the entries. -/
def front (header : Header frame) : List UInt8 :=
  header.codes ++ header.framePointer.elim [] (·.2.bytes) ++ header.count.bytes

def bytes (header : Header frame) : List UInt8 := header.front ++ header.entries.flatMap Entry.bytes

/-- Where an entry begins. -/
def position (header : Header frame) (place : Nat) : Nat :=
  (header.front ++ (header.entries.take place).flatMap Entry.bytes).length

/-- Each start is what its field says: the number in it, added to the base of the field. -/
structure Describes (header : Header frame) (starts : List UInt64) : Prop where
  length : starts.length = header.entries.length
  start : ∀ (place : Nat) (entry : Entry frame header.encoding.format) (start : UInt64),
    header.entries[place]? = some entry → starts[place]? = some start →
      (start.toNat : Int) = (frame.origin (header.position place) header.encoding.application +
        entry.start.number) % capacity frame.addressSize.toNat

end Header

theorem fieldEncoding_code (field : HeaderField) (encoding : Encoding) :
    fieldEncoding field encoding.code = .ok (some encoding) := by
  rw [fieldEncoding, if_neg encoding.code_ne, Encoding.ofCode_code]

theorem headerEncodings_codes {frame : Frame} (header : Header frame) (rest : List UInt8) :
    headerEncodings (header.codes ++ rest) =
      .ok ({ framePointer := header.framePointer.map (·.1), count := some ⟨header.countFormat, .absolute⟩,
             table := some header.encoding }, { position := 4, rest }) := by
  have first : fieldEncoding .framePointer (header.framePointer.elim 0xff (·.1.code)) =
      .ok (header.framePointer.map (·.1)) := by
    cases header.framePointer with
    | none => rfl
    | some pointer => exact fieldEncoding_code .framePointer pointer.1
  simp only [headerEncodings, Header.codes, List.cons_append, List.nil_append, first, fieldEncoding_code]
  rfl

namespace Frame
variable {frame : Frame} {encoding : Encoding}

/-- The starts of entries that begin at a position. -/
def startsFrom (encoding : Encoding) : Nat → List (Entry frame encoding.format) → List UInt64
  | _, [] => []
  | position, entry :: rest =>
    frame.resolved encoding.application position entry.start.number ::
      startsFrom encoding (position + entry.bytes.length) rest

theorem getElem_startsFrom (position : Nat) (entries : List (Entry frame encoding.format)) (place : Nat) :
    (startsFrom encoding position entries)[place]? = entries[place]?.map fun entry =>
      frame.resolved encoding.application (position + ((entries.take place).flatMap Entry.bytes).length)
        entry.start.number := by
  induction entries generalizing position place with
  | nil => rfl
  | cons entry rest ih =>
    cases place with
    | zero => rfl
    | succ place =>
      rw [startsFrom, List.getElem?_cons_succ, List.getElem?_cons_succ, ih, List.take_succ_cons, List.flatMap_cons,
        List.length_append, Nat.add_assoc]

theorem length_startsFrom (position : Nat) (entries : List (Entry frame encoding.format)) :
    (startsFrom encoding position entries).length = entries.length := by
  induction entries generalizing position with
  | nil => rfl
  | cons entry rest ih => exact congrArg (· + 1) (ih (position + entry.bytes.length))

section Sized
variable (sized : frame.addressSize = 4 ∨ frame.addressSize = 8)
include sized

theorem entry_bytes (entry : Entry frame encoding.format) (position : Nat) (rest : List UInt8) :
    frame.entry encoding ⟨position, entry.bytes ++ rest⟩ =
      some (frame.resolved encoding.application position entry.start.number,
        ⟨position + entry.bytes.length, rest⟩) := by
  simp [Frame.entry, Entry.bytes, pointer_bytes sized, Nat.add_assoc]

theorem entries_bytes (entries : List (Entry frame encoding.format)) {n : Nat} (within : n ≤ entries.length)
    (position : Nat) (rest : List UInt8) (before : Array UInt64) :
    frame.entries encoding n ⟨position, entries.flatMap Entry.bytes ++ rest⟩ before =
      (before ++ (startsFrom encoding position entries).take n, true) := by
  induction n generalizing entries position before with
  | zero => simp [Frame.entries]
  | succ n ih =>
    cases entries with
    | nil => simp at within
    | cons entry others =>
      have fewer : n ≤ others.length := Nat.le_of_succ_le_succ within
      simp [Frame.entries, entry_bytes sized, ih others fewer, startsFrom]

theorem skip_framePointer (header : Header frame) (rest : List UInt8) :
    frame.skip ⟨4, header.framePointer.elim [] (·.2.bytes) ++ rest⟩ (header.framePointer.map (·.1)) =
      some ⟨4 + (header.framePointer.elim [] (·.2.bytes)).length, rest⟩ := by
  cases header.framePointer with
  | none => rfl
  | some pointer => simp [Frame.skip, pointer_bytes sized]

theorem described_eq (header : Header frame) {starts : List UInt64} (described : header.Describes starts) :
    starts = startsFrom header.encoding header.front.length header.entries := by
  apply List.ext_getElem?
  intro place
  rw [getElem_startsFrom]
  cases found : header.entries[place]? with
  | none =>
    have outside : header.entries.length ≤ place := List.getElem?_eq_none_iff.mp found
    exact List.getElem?_eq_none (described.length ▸ outside)
  | some entry =>
    obtain ⟨inside, _⟩ := List.getElem?_eq_some_iff.mp found
    rw [← described.length] at inside
    obtain ⟨start, listed⟩ : ∃ start, starts[place]? = some start := ⟨_, List.getElem?_eq_getElem inside⟩
    have value := described.start place entry start found listed
    rw [Header.position, List.length_append, ← toNat_resolved sized] at value
    rw [listed, Option.map_some]
    exact congrArg some (UInt64.toNat_inj.mp (Int.ofNat_inj.mp value))

theorem represents_lt {format : Format} {n : Int} (represented : frame.Represents format n) : n < capacity 8 := by
  cases format with
  | address =>
    have small : capacity frame.addressSize.toNat ≤ capacity 8 := by
      rcases sized with sized | sized <;> rw [sized] <;> decide
    exact Int.lt_of_lt_of_le represented.2 (Int.ofNat_le.mpr small)
  | unsignedLeb | unsigned2 | unsigned4 | unsigned8 =>
    have below := represented.2
    simp only [capacity] at below ⊢
    omega
  | signedLeb | signed2 | signed4 | signed8 =>
    have below := represented.2
    simp only [capacity] at below ⊢
    omega

theorem resolved_count (header : Header frame)
    (narrow : frame.addressSize = 4 → header.entries.length < capacity 4) (position : Nat) :
    (frame.resolved .absolute position header.count.number).toNat = header.entries.length := by
  have below := represents_lt sized header.count.represented
  have value := toNat_resolved sized .absolute position header.count.number
  have fits : header.entries.length < capacity frame.addressSize.toNat := by
    rw [header.counted] at below
    rcases sized with short | wide
    · rw [short]
      exact narrow short
    · rw [wide]
      exact Int.ofNat_lt.mp below
  rw [header.counted, origin, Int.zero_add, Int.emod_eq_of_lt (Int.natCast_nonneg _) (Int.ofNat_lt.mpr fits)] at value
  rw [header.counted]
  exact Int.ofNat_inj.mp value

theorem table_bytes (entries : List (Entry frame encoding.format)) (position limit : Nat) (rest : List UInt8) :
    frame.table encoding entries.length limit ⟨position, entries.flatMap Entry.bytes ++ rest⟩ =
      { starts := (startsFrom encoding position entries).take limit
        fault := if entries.length ≤ limit then none else some (.entryLimit entries.length limit) } := by
  have read := entries_bytes sized entries (Nat.min_le_left _ limit) position rest #[]
  have cut : (startsFrom encoding position entries).take (min entries.length limit) =
      (startsFrom encoding position entries).take limit := by
    rw [Nat.min_comm, ← List.take_take, ← length_startsFrom position entries, List.take_length]
  have listed : ((#[] : Array UInt64) ++ (startsFrom encoding position entries).take limit).toList =
      (startsFrom encoding position entries).take limit := by
    rw [Array.toList_appendList, List.nil_append]
  simp only [Frame.table, read, cut, listed, Bool.not_true, Bool.false_eq_true, if_false]
  split
  next exceeds => rw [if_neg (Nat.not_le_of_lt exceeds)]
  next within => rw [if_pos (Nat.le_of_not_lt within)]

end Sized

end Frame

/-- Reading a header undoes writing it, whatever follows the header. -/
theorem frameHeaderStarts_bytes {frame : Frame} (sized : frame.addressSize = 4 ∨ frame.addressSize = 8)
    (header : Header frame) {starts : List UInt64} (described : header.Describes starts)
    (narrow : frame.addressSize = 4 → header.entries.length < capacity 4) (rest : List UInt8) (limit : Nat) :
    frameHeaderStarts frame (header.bytes ++ rest).toArray limit =
      { starts := starts.take limit
        fault := if header.entries.length ≤ limit then none
          else some (.entryLimit header.entries.length limit) } := by
  have layout : header.bytes ++ rest = header.codes ++ (header.framePointer.elim [] (·.2.bytes) ++
      (header.count.bytes ++ (header.entries.flatMap Entry.bytes ++ rest))) := by
    simp only [Header.bytes, Header.front, List.append_assoc]
  have counted := @Frame.pointer_bytes frame sized ⟨header.countFormat, .absolute⟩ header.count
  have front : header.front.length =
      4 + (header.framePointer.elim [] (·.2.bytes)).length + header.count.bytes.length := by
    rw [Header.front, List.length_append, List.length_append]
    rfl
  simp only [frameHeaderStarts, layout, headerEncodings_codes, Frame.skip_framePointer sized, counted,
    Frame.resolved_count sized header narrow, Frame.table_bytes sized, ← front,
    ← Frame.described_eq sized header described]

/-- Three functions, given relative to their fields. The last one is so far before the table that
its address wraps in 32 bits. -/
def wrappingFrame : Frame := ⟨.big, 0x402000, 4⟩

def wrappingHeader : Header wrappingFrame where
  framePointer := some ⟨⟨.signed4, .tableRelative⟩, -16, 0, ⟨by decide, by decide⟩, trivial⟩
  countFormat := .unsignedLeb
  count := ⟨3, 1, ⟨by decide, by decide⟩, ⟨by decide, by decide⟩⟩
  encoding := ⟨.signedLeb, .fieldRelative⟩
  entries :=
    [⟨⟨-100, 1, ⟨by decide, by decide⟩, ⟨by decide, by decide, by decide⟩⟩,
      ⟨5, 0, ⟨by decide, by decide⟩, ⟨by decide, by decide, by decide⟩⟩⟩,
     ⟨⟨300, 1, ⟨by decide, by decide⟩, ⟨by decide, by decide, by decide⟩⟩,
      ⟨-1, 0, ⟨by decide, by decide⟩, ⟨by decide, by decide, by decide⟩⟩⟩,
     ⟨⟨-0x402020, 3, ⟨by decide, by decide⟩, ⟨by decide, by decide, by decide⟩⟩,
      ⟨0, 0, ⟨by decide, by decide⟩, ⟨by decide, by decide, by decide⟩⟩⟩]
  counted := rfl

theorem wrappingHeader_describes : wrappingHeader.Describes [0x401fa6, 0x402139, 0xfffffff0] := by
  refine ⟨rfl, ?_⟩
  intro place entry start listed named
  match place with
  | 0 | 1 | 2 =>
    cases listed
    cases named
    decide
  | _ + 3 => cases listed

theorem wrappingHeader_read :
    frameHeaderStarts wrappingFrame (wrappingHeader.bytes ++ [0xcc]).toArray 2 =
      { starts := [0x401fa6, 0x402139], fault := some (.entryLimit 3 2) } :=
  frameHeaderStarts_bytes (.inl rfl) wrappingHeader wrappingHeader_describes (fun _ => by decide) [0xcc] 2

end IsaCensus.Unwind
