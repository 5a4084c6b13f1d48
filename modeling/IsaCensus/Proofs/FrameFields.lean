import Mathlib.Algebra.GroupWithZero.Nat
import IsaCensus.Proofs.Addresses
import IsaCensus.Proofs.StoredWords
import IsaCensus.Unwind.Pointer

/-! The fields of unwind tables, as they are written. A number that a format can represent is
read back from its bytes, whatever follows them, and a pointer from it is its base plus the
number, in as many bits as an address has. -/

namespace IsaCensus

namespace Unwind

/-- How many numbers can be written by `n` groups of seven bits. -/
def groupCapacity : Nat → Nat
  | 0 => 1
  | n + 1 => 128 * groupCapacity n

/-- Nine groups leave one bit of 64. -/
theorem two_groupCapacity : 2 * groupCapacity 9 = capacity 8 := rfl

/-- The lowest seven bits of a number, as the last byte or as one that others follow. -/
def lastGroup (n : Int) : UInt8 := (n % 128).toNat.toUInt8

def nextGroup (n : Int) : UInt8 := ((n % 128).toNat + 128).toUInt8

/-- A number in groups of seven bits, of which `more` come before the last one. -/
def groups : Nat → Int → List UInt8
  | 0, n => [lastGroup n]
  | more + 1, n => nextGroup n :: groups more (n / 128)

theorem length_groups (more : Nat) (n : Int) : (groups more n).length = more + 1 := by
  induction more generalizing n with
  | zero => rfl
  | succ more ih => exact congrArg (· + 1) (ih (n / 128))

section Groups
variable {more place room : Nat} {n : Int}

theorem toNat_lastGroup (n : Int) : (lastGroup n).toNat = (n % 128).toNat :=
  Nat.mod_eq_of_lt (by omega)

theorem toNat_nextGroup (n : Int) : (nextGroup n).toNat = (n % 128).toNat + 128 :=
  Nat.mod_eq_of_lt (by omega)

theorem lastGroup_ends (n : Int) : lastGroup n < 0x80 := by
  rw [UInt8.lt_iff_toNat_lt, toNat_lastGroup]
  show (n % 128).toNat < 128
  omega

theorem nextGroup_continues (n : Int) : ¬nextGroup n < 0x80 := by
  rw [UInt8.lt_iff_toNat_lt, toNat_nextGroup]
  show ¬(n % 128).toNat + 128 < 128
  omega

/-- The bytes at `place` and behind it are read as the number that they were made of. -/
theorem unsigned_groups (rest : List UInt8) (ends : place + room = 9) (within : more ≤ room) (positive : 0 ≤ n)
    (enough : n < groupCapacity (more + 1)) (small : n < 2 * groupCapacity room) :
    unsigned place (groups more n ++ rest) = some (n.toNat, more + 1) := by
  -- One byte is taken off the front; `room` counts how many there still may be, so that the bounds
  -- on the number stay linear while the place moves up.
  induction more generalizing place room n with
  | zero =>
    simp only [groupCapacity] at enough
    have allowed : ¬(place = 9 ∧ 1 < lastGroup n) := by
      rintro ⟨rfl, large⟩
      rw [UInt8.lt_iff_toNat_lt, toNat_lastGroup] at large
      obtain rfl : room = 0 := by omega
      simp only [groupCapacity] at small
      have one : (1 : UInt8).toNat = 1 := rfl
      omega
    have value : (n % 128).toNat = n.toNat := by omega
    simp only [groups, List.cons_append, unsigned, if_neg allowed, if_pos (lastGroup_ends n), toNat_lastGroup, value]
  | succ more ih =>
    obtain _ | room := room
    · omega
    simp only [groupCapacity] at enough small ih
    have allowed : ¬(place = 9 ∧ 1 < nextGroup n) := by omega
    have later : unsigned (place + 1) (groups more (n / 128) ++ rest) = some ((n / 128).toNat, more + 1) := by
      apply @ih (place + 1) room (n / 128) <;> omega
    have value : (n % 128).toNat + 128 - 128 + 128 * (n / 128).toNat = n.toNat := by omega
    simp only [groups, List.cons_append, unsigned, if_neg allowed, if_neg (nextGroup_continues n), later,
      toNat_nextGroup, Option.map_some, value]

theorem signedGroup_lastGroup (low : -64 ≤ n) (high : n < 64) : signedGroup (lastGroup n) = n := by
  simp only [signedGroup, UInt8.lt_iff_toNat_lt, toNat_lastGroup]
  have sign : (0x40 : UInt8).toNat = 64 := rfl
  split <;> omega

theorem signed_groups (rest : List UInt8) (ends : place + room = 9) (within : more ≤ room)
    (low : -(64 * groupCapacity more) ≤ n) (high : n < 64 * groupCapacity more)
    (least : -groupCapacity room ≤ n) (greatest : n < groupCapacity room) :
    signed place (groups more n ++ rest) = some (n, more + 1) := by
  induction more generalizing place room n with
  | zero =>
    simp only [groupCapacity] at low high
    -- A tenth byte holds one bit only: the number that is left there is 0 or -1.
    have allowed : ¬(place = 9 ∧ lastGroup n ≠ 0 ∧ lastGroup n ≠ 0x7f) := by
      rintro ⟨rfl, nonzero, notOnes⟩
      obtain rfl : room = 0 := by omega
      simp only [groupCapacity] at least greatest
      obtain rfl | rfl : n = 0 ∨ n = -1 := by omega
      · exact nonzero rfl
      · exact notOnes rfl
    simp only [groups, List.cons_append, signed, if_neg allowed, if_pos (lastGroup_ends n),
      signedGroup_lastGroup low high]
  | succ more ih =>
    obtain _ | room := room
    · omega
    simp only [groupCapacity] at low high least greatest
    have allowed : ¬(place = 9 ∧ nextGroup n ≠ 0 ∧ nextGroup n ≠ 0x7f) := by omega
    have later : signed (place + 1) (groups more (n / 128) ++ rest) = some (n / 128, more + 1) := by
      apply @ih (place + 1) room (n / 128) <;> omega
    have value : (((n % 128).toNat + 128 : Nat) : Int) - 128 + 128 * (n / 128) = n := by omega
    simp only [groups, List.cons_append, signed, if_neg allowed, if_neg (nextGroup_continues n), later,
      toNat_nextGroup, Option.map_some, value]

end Groups

namespace Frame

/-- A number as a word of `width` bytes. -/
def wordBytes (frame : Frame) (width : Nat) (n : Int) : List UInt8 :=
  frame.order.bytes width (n % capacity width).toNat

/-- A number as the bytes of a field. In a format of groups, `more` bytes come before the last one. -/
def written (frame : Frame) (more : Nat) (format : Format) (n : Int) : List UInt8 :=
  match format with
  | .address => frame.wordBytes frame.addressSize.toNat n
  | .unsignedLeb | .signedLeb => groups more n
  | .unsigned2 | .signed2 => frame.wordBytes 2 n
  | .unsigned4 | .signed4 => frame.wordBytes 4 n
  | .unsigned8 | .signed8 => frame.wordBytes 8 n

/-- The numbers that fit into an unsigned word of `width` bytes. -/
def UnsignedWord (width : Nat) (n : Int) : Prop := 0 ≤ n ∧ n < capacity width

/-- The numbers that fit into a word of `width` bytes with a sign. -/
def SignedWord (width : Nat) (n : Int) : Prop := -capacity width ≤ 2 * n ∧ 2 * n < capacity width

/-- The numbers that a format can represent. -/
def Represents (frame : Frame) : Format → Int → Prop
  | .address => UnsignedWord frame.addressSize.toNat
  | .unsignedLeb => UnsignedWord 8
  | .unsigned2 => UnsignedWord 2
  | .unsigned4 => UnsignedWord 4
  | .unsigned8 => UnsignedWord 8
  | .signedLeb => SignedWord 8
  | .signed2 => SignedWord 2
  | .signed4 => SignedWord 4
  | .signed8 => SignedWord 8

/-- So many further bytes are enough for a number in groups, and not too many. -/
def Reaches (more : Nat) : Format → Int → Prop
  | .unsignedLeb, n => more ≤ 9 ∧ n < groupCapacity (more + 1)
  | .signedLeb, n => more ≤ 9 ∧ -(64 * groupCapacity more) ≤ n ∧ n < 64 * groupCapacity more
  | _, _ => True

section Words
variable {frame : Frame} {width : Nat} {n : Int}

theorem length_wordBytes : (frame.wordBytes width n).length = width := frame.order.length_bytes width _

theorem word_wordBytes (rest : List UInt8) :
    frame.word? width (frame.wordBytes width n ++ rest) = some (n % capacity width).toNat := by
  have positive := capacity_pos width
  have below := Int.emod_lt_of_pos n (by omega : (0 : Int) < capacity width)
  have small : (n % capacity width).toNat < capacity width := by omega
  simp only [word?, List.take_left' length_wordBytes, length_wordBytes, if_pos]
  rw [wordBytes, Endian.value_bytes _ small]

theorem unsignedWord_wordBytes (fits : UnsignedWord width n) (rest : List UInt8) :
    frame.unsignedWord width (frame.wordBytes width n ++ rest) = some (n, width) := by
  rw [unsignedWord, word_wordBytes, Int.emod_eq_of_lt fits.1 fits.2]
  exact congrArg (fun value => some (value, width)) (Int.toNat_of_nonneg fits.1)

theorem signExtend_emod (fits : SignedWord width n) : signExtend width (n % capacity width).toNat = n := by
  obtain ⟨least, greatest⟩ := fits
  rcases Int.lt_or_le n 0 with negative | positive
  · have wrapped : n % capacity width = n + capacity width := by
      rw [← Int.add_emod_right, Int.emod_eq_of_lt (by omega) (by omega)]
    rw [signExtend, wrapped, if_neg (by omega)]
    omega
  · rw [Int.emod_eq_of_lt positive (by omega), signExtend, if_pos (by omega), Int.toNat_of_nonneg positive]

theorem signedWord_wordBytes (fits : SignedWord width n) (rest : List UInt8) :
    frame.signedWord width (frame.wordBytes width n ++ rest) = some (n, width) := by
  rw [signedWord, word_wordBytes, Option.map_some, signExtend_emod fits]

end Words

end Frame

/-- A number as a field of a table has it. In a format of groups it may take more bytes than it needs. -/
structure Field (frame : Frame) (format : Format) where
  number : Int
  more : Nat := 0
  represented : frame.Represents format number
  reached : Frame.Reaches more format number

/-- Every number that a format can represent makes a field. -/
theorem exists_field (frame : Frame) (format : Format) (n : Int) (represented : frame.Represents format n) :
    ∃ field : Field frame format, field.number = n := by
  refine ⟨⟨n, 9, represented, ?_⟩, rfl⟩
  cases format with
  | unsignedLeb =>
    obtain ⟨_, small⟩ := represented
    simp only [capacity] at small
    simp only [Frame.Reaches, groupCapacity]
    omega
  | signedLeb =>
    obtain ⟨least, greatest⟩ := represented
    simp only [capacity] at least greatest
    simp only [Frame.Reaches, groupCapacity]
    omega
  | _ => exact trivial

namespace Field
variable {frame : Frame} {format : Format}

def bytes (field : Field frame format) : List UInt8 := frame.written field.more format field.number

/-- A field is read back whatever follows it. -/
theorem number_bytes (sized : frame.addressSize = 4 ∨ frame.addressSize = 8) (field : Field frame format)
    (rest : List UInt8) : frame.number format (field.bytes ++ rest) = some (field.number, field.bytes.length) := by
  obtain ⟨n, more, represented, reached⟩ := field
  cases format with
  | address =>
    have supported : frame.addressSize ∈ [1, 2, 4, 8] := by
      rcases sized with sized | sized <;> rw [sized] <;> decide
    simp only [bytes, Frame.written, Frame.number, if_pos supported, Frame.unsignedWord_wordBytes represented,
      Frame.length_wordBytes]
  | unsignedLeb =>
    obtain ⟨positive, small⟩ := represented
    rw [← two_groupCapacity] at small
    have read := unsigned_groups rest (Nat.zero_add 9) reached.1 positive reached.2 (by omega)
    simp only [bytes, Frame.written, Frame.number, read, length_groups, Option.map_some, Int.toNat_of_nonneg positive]
  | signedLeb =>
    obtain ⟨least, greatest⟩ := represented
    rw [← two_groupCapacity] at least greatest
    have read := signed_groups rest (Nat.zero_add 9) reached.1 reached.2.1 reached.2.2 (by omega) (by omega)
    simp only [bytes, Frame.written, Frame.number, read, length_groups]
  | unsigned2 | unsigned4 | unsigned8 =>
    simp only [bytes, Frame.written, Frame.number, Frame.unsignedWord_wordBytes represented, Frame.length_wordBytes]
  | signed2 | signed4 | signed8 =>
    simp only [bytes, Frame.written, Frame.number, Frame.signedWord_wordBytes represented, Frame.length_wordBytes]

end Field

theorem toNat_ofInt (n : Int) : ((UInt64.ofInt n).toNat : Int) = n % 0x10000000000000000 := by
  have value : (UInt64.ofInt n).toNat = (n % 0x10000000000000000).toNat % 0x10000000000000000 :=
    UInt64.toNat_ofNat'
  omega

namespace Frame

/-- The base of a field at a position, as a number that does not wrap. -/
def origin (frame : Frame) (position : Nat) : Application → Int
  | .absolute => 0
  | .fieldRelative => frame.base.toNat + position
  | .tableRelative => frame.base.toNat

theorem toNat_bias (frame : Frame) (position : Nat) (application : Application) :
    ((frame.bias position application).toNat : Int) = frame.origin position application % 0x10000000000000000 := by
  have small := frame.base.toNat_lt
  cases application with
  | absolute => rfl
  | fieldRelative =>
    have wrapped : position.toUInt64.toNat = position % 0x10000000000000000 := UInt64.toNat_ofNat'
    simp only [bias, origin, UInt64.toNat_add, wrapped]
    omega
  | tableRelative =>
    simp only [bias, origin]
    omega

theorem toNat_reduce {frame : Frame} (sized : frame.addressSize = 4 ∨ frame.addressSize = 8) (address : UInt64) :
    (frame.reduce address).toNat = address.toNat % capacity frame.addressSize.toNat := by
  rcases sized with narrow | wide
  · rw [reduce, if_pos narrow, narrow]
    exact Domain.toNat_normalize .rva32 address
  · have small := address.toNat_lt
    rw [reduce, if_neg (by rw [wide]; decide), wide]
    exact (Nat.mod_eq_of_lt small).symm

/-- The address that a number stands for in a field at a position. -/
def resolved (frame : Frame) (application : Application) (position : Nat) (n : Int) : UInt64 :=
  frame.reduce (frame.bias position application + UInt64.ofInt n)

theorem toNat_resolved {frame : Frame} (sized : frame.addressSize = 4 ∨ frame.addressSize = 8)
    (application : Application) (position : Nat) (n : Int) :
    ((frame.resolved application position n).toNat : Int) =
      (frame.origin position application + n) % capacity frame.addressSize.toNat := by
  have based := frame.toNat_bias position application
  have numbered := toNat_ofInt n
  rw [resolved, toNat_reduce sized, UInt64.toNat_add]
  rcases sized with narrow | wide
  · rw [narrow]
    have span : capacity (4 : UInt8).toNat = 0x100000000 := rfl
    rw [span]
    omega
  · rw [wide]
    have span : capacity (8 : UInt8).toNat = 0x10000000000000000 := rfl
    rw [span]
    omega

theorem pointer_bytes {frame : Frame} (sized : frame.addressSize = 4 ∨ frame.addressSize = 8) {encoding : Encoding}
    (field : Field frame encoding.format) (position : Nat) (rest : List UInt8) :
    frame.pointer encoding ⟨position, field.bytes ++ rest⟩ =
      some (frame.resolved encoding.application position field.number, ⟨position + field.bytes.length, rest⟩) := by
  simp only [pointer, field.number_bytes sized, Option.map_some, Cursor.skip, List.drop_left']
  rfl

end Frame

end Unwind

end IsaCensus
