/-! Byte strings, the windows cut out of them and the words stored in them. Every
read is checked: what does not lie inside the bytes is `none`. -/

namespace IsaCensus

abbrev Bytes := Array UInt8

namespace Bytes

/-- The `length` bytes at `offset`. Nothing at all can be read anywhere. -/
def slice? (bytes : Bytes) (offset length : Nat) : Option Bytes :=
  if length = 0 then some #[]
  else if offset + length ≤ bytes.size then some (bytes.extract offset (offset + length))
  else none

/-- The part of `[start, start + length)` that the bytes cover. -/
def window (bytes : Bytes) (start length : Nat) : Bytes :=
  bytes.extract start (min (start + length) bytes.size)

theorem size_of_slice {bytes cut : Bytes} {offset length : Nat}
    (found : bytes.slice? offset length = some cut) : cut.size = length := by
  unfold slice? at found
  split at found
  next empty => cases found; simp [empty]
  · split at found
    · cases found
      simp only [Array.size_extract]
      omega
    · cases found

theorem size_window (bytes : Bytes) (start length : Nat) :
    (bytes.window start length).size = min length (bytes.size - start) := by
  simp only [window, Array.size_extract]
  omega

def startsAt (bytes : Bytes) (offset : Nat) : List UInt8 → Bool
  | [] => true
  | byte :: rest => bytes[offset]? == some byte && bytes.startsAt (offset + 1) rest

/-- The place of the first zero at `offset` or behind it. -/
def zeroFrom? (bytes : Bytes) (offset : Nat) : Option Nat :=
  if inside : offset < bytes.size then
    if bytes[offset] = 0 then some offset else bytes.zeroFrom? (offset + 1)
  else none
termination_by bytes.size - offset

/-- The bytes from `offset` up to the first zero, which has to lie inside. -/
def terminated? (bytes : Bytes) (offset : Nat) : Option Bytes :=
  (bytes.zeroFrom? offset).map fun stop => bytes.extract offset stop

/-- The full records of `width` bytes, one behind the other. A rest that is shorter is dropped. -/
def records (bytes : Bytes) (width : Nat) : List Bytes :=
  (List.range (bytes.size / width)).map fun i => bytes.extract (i * width) (i * width + width)

end Bytes

inductive Endian
  | little
  | big
deriving DecidableEq, Repr

/-- The number written by bytes, the least significant first. -/
def littleValue : List UInt8 → Nat
  | [] => 0
  | byte :: rest => byte.toNat + 256 * littleValue rest

/-- How many numbers can be written by `n` bytes. -/
def capacity : Nat → Nat
  | 0 => 1
  | n + 1 => 256 * capacity n

theorem capacity_pos (n : Nat) : 0 < capacity n := by
  induction n with
  | zero => exact Nat.one_pos
  | succ n ih => exact Nat.mul_pos (by decide) ih

theorem littleValue_lt (bytes : List UInt8) : littleValue bytes < capacity bytes.length := by
  induction bytes with
  | nil => simp [littleValue, capacity]
  | cons byte rest ih =>
    have small := byte.toNat_lt
    simp only [littleValue, List.length_cons, capacity]
    omega

namespace Endian

def value : Endian → List UInt8 → Nat
  | .little, bytes => littleValue bytes
  | .big, bytes => littleValue bytes.reverse

theorem value_lt (order : Endian) (bytes : List UInt8) : order.value bytes < capacity bytes.length := by
  cases order with
  | little => exact littleValue_lt bytes
  | big => simpa [value] using littleValue_lt bytes.reverse

end Endian

def Bytes.word? (bytes : Bytes) (order : Endian) (width offset : Nat) : Option Nat :=
  (bytes.slice? offset width).map fun word => order.value word.toList

namespace Bytes
variable {bytes : Bytes} {order : Endian} {width offset : Nat}

theorem word_inside (inside : offset + width ≤ bytes.size) :
    bytes.word? order width offset = some (order.value (bytes.extract offset (offset + width)).toList) := by
  have sliced : bytes.slice? offset width = some (bytes.extract offset (offset + width)) := by
    unfold slice?
    by_cases empty : width = 0
    · rw [if_pos empty, empty, Nat.add_zero, Array.extract_empty_of_stop_le_start (Nat.le_refl offset)]
    · rw [if_neg empty, if_pos inside]
  rw [word?, sliced]
  rfl

/-- A word cannot be read just if it does not lie inside the bytes. -/
theorem word_eq_none_iff (wide : 0 < width) : bytes.word? order width offset = none ↔ bytes.size < offset + width := by
  constructor
  · intro missing
    refine Nat.lt_of_not_le fun inside => ?_
    cases (word_inside inside).symm.trans missing
  · intro outside
    rw [word?, slice?, if_neg (Nat.ne_of_gt wide), if_neg (Nat.not_le_of_gt outside)]
    rfl

theorem word_fits (wide : 0 < width) {value : Nat} (found : bytes.word? order width offset = some value) :
    offset + width ≤ bytes.size := by
  refine Nat.le_of_not_lt fun outside => ?_
  cases ((word_eq_none_iff wide).mpr outside).symm.trans found

theorem word_lt {value : Nat} (found : bytes.word? order width offset = some value) : value < capacity width := by
  obtain ⟨cut, sliced, rfl⟩ := Option.map_eq_some_iff.mp found
  have length : cut.toList.length = width := size_of_slice sliced
  exact length ▸ order.value_lt cut.toList

end Bytes

end IsaCensus
