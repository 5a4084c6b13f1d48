import Mathlib.Data.List.Basic
import IsaCensus.Bytes

/-! Words and the bytes that they are written in. In either byte order, a number that so many bytes can
write is written in one way. The words that stand in a file are told by their bytes, one by one, and
not by what is read there; that a reader finds just these words is a theorem. -/

namespace IsaCensus

/-- The `width` lowest bytes of a number, the least significant first. -/
def littleBytes : Nat → Nat → List UInt8
  | 0, _ => []
  | width + 1, n => (n % 256).toUInt8 :: littleBytes width (n / 256)

theorem length_littleBytes (width n : Nat) : (littleBytes width n).length = width := by
  induction width generalizing n with
  | zero => rfl
  | succ width ih => exact congrArg (· + 1) (ih (n / 256))

theorem littleValue_littleBytes {width n : Nat} (small : n < capacity width) :
    littleValue (littleBytes width n) = n := by
  induction width generalizing n with
  | zero =>
    have zero : n = 0 := by simpa [capacity] using small
    rw [zero]
    rfl
  | succ width ih =>
    simp only [capacity] at small
    have byte : (n % 256).toUInt8.toNat = n % 256 := Nat.mod_eq_of_lt (Nat.mod_lt n (by decide))
    rw [littleBytes, littleValue, byte, ih (by omega)]
    omega

theorem littleBytes_littleValue (bytes : List UInt8) : littleBytes bytes.length (littleValue bytes) = bytes := by
  induction bytes with
  | nil => rfl
  | cons byte rest ih =>
    have small := byte.toNat_lt
    have low : (byte.toNat + 256 * littleValue rest) % 256 = byte.toNat := by omega
    have high : (byte.toNat + 256 * littleValue rest) / 256 = littleValue rest := by omega
    rw [List.length_cons, littleBytes, littleValue, low, high, ih]
    exact congrArg (· :: rest) (UInt8.ofNat_toNat)

namespace Endian

/-- A number written in `width` bytes. -/
def bytes (order : Endian) (width n : Nat) : List UInt8 :=
  match order with
  | .little => littleBytes width n
  | .big => (littleBytes width n).reverse

theorem length_bytes (order : Endian) (width n : Nat) : (order.bytes width n).length = width := by
  cases order <;> simp [bytes, length_littleBytes]

theorem value_bytes (order : Endian) {width n : Nat} (small : n < capacity width) :
    order.value (order.bytes width n) = n := by
  cases order <;> simp [value, bytes, littleValue_littleBytes small]

theorem bytes_value (order : Endian) (bytes : List UInt8) : order.bytes bytes.length (order.value bytes) = bytes := by
  cases order with
  | little => exact littleBytes_littleValue bytes
  | big =>
    have reversed := littleBytes_littleValue bytes.reverse
    rw [List.length_reverse] at reversed
    rw [Endian.bytes, value, reversed, List.reverse_reverse]

end Endian

namespace Bytes

/-- The bytes from an offset on are those of a word. -/
structure Writes (content : Bytes) (order : Endian) (width offset word : Nat) : Prop where
  small : word < capacity width
  bytes : ∀ place < width, content[offset + place]? = (order.bytes width word)[place]?

section
variable {content : Bytes} {order : Endian} {width offset word : Nat}

theorem getElem?_toList_extract {place : Nat} (early : place < width) :
    (content.extract offset (offset + width)).toList[place]? = content[offset + place]? := by
  rw [Array.getElem?_toList, Array.getElem?_extract]
  by_cases inside : offset + place < content.size
  · rw [if_pos (by omega)]
  · rw [if_neg (by omega), Array.getElem?_eq_none (by omega)]

theorem Writes.inside (wide : 0 < width) (writes : content.Writes order width offset word) :
    offset + width ≤ content.size := by
  have last := writes.bytes (width - 1) (by omega)
  have listed : width - 1 < (order.bytes width word).length := by
    rw [order.length_bytes]
    omega
  rw [List.getElem?_eq_getElem listed] at last
  obtain ⟨within, _⟩ := Array.getElem?_eq_some_iff.mp last
  omega

theorem Writes.toList_eq (wide : 0 < width) (writes : content.Writes order width offset word) :
    (content.extract offset (offset + width)).toList = order.bytes width word := by
  have inside := writes.inside wide
  apply List.ext_getElem?
  intro place
  rcases Nat.lt_or_ge place width with early | late
  · rw [getElem?_toList_extract early, writes.bytes place early]
  · rw [List.getElem?_eq_none, List.getElem?_eq_none]
    · rwa [order.length_bytes]
    · rw [Array.length_toList, Array.size_extract]
      omega

theorem Writes.unique {other : Nat} (writes : content.Writes order width offset word)
    (also : content.Writes order width offset other) : word = other := by
  have same : order.bytes width word = order.bytes width other := by
    apply List.ext_getElem?
    intro place
    rcases Nat.lt_or_ge place width with early | late
    · rw [← writes.bytes place early, also.bytes place early]
    · rw [List.getElem?_eq_none, List.getElem?_eq_none] <;> rwa [order.length_bytes]
  rw [← order.value_bytes writes.small, same, order.value_bytes also.small]

/-- A word is read just where its bytes stand. -/
theorem word_eq_some_iff (wide : 0 < width) :
    content.word? order width offset = some word ↔ content.Writes order width offset word := by
  constructor
  · intro found
    have inside := word_fits wide found
    have value := Option.some.inj ((word_inside inside).symm.trans found)
    have length : (content.extract offset (offset + width)).toList.length = width := by
      rw [Array.length_toList, Array.size_extract]
      omega
    have written := order.bytes_value (content.extract offset (offset + width)).toList
    rw [length, value] at written
    refine ⟨word_lt found, fun place early => ?_⟩
    rw [written, getElem?_toList_extract early]
  · intro writes
    rw [word_inside (writes.inside wide), writes.toList_eq wide, order.value_bytes writes.small]

end

/-- These words stand one behind the other from an offset on. -/
def Stores (content : Bytes) (order : Endian) (width offset : Nat) (words : List Nat) : Prop :=
  ∀ place word, words[place]? = some word → content.Writes order width (offset + place * width) word

variable {content : Bytes} {order : Endian} {width offset : Nat}

/-- What is stored from an offset on is only a matter of how many words are asked for. -/
theorem Stores.take_eq {words others : List Nat} (stored : content.Stores order width offset words)
    (also : content.Stores order width offset others) {count : Nat} (few : count ≤ words.length)
    (enough : count ≤ others.length) : words.take count = others.take count := by
  refine List.ext_getElem (by simp only [List.length_take]; omega) fun place inside within => ?_
  rw [List.length_take] at inside within
  rw [List.getElem_take, List.getElem_take]
  exact (stored place _ (List.getElem?_eq_getElem (by omega))).unique
    (also place _ (List.getElem?_eq_getElem (by omega)))

/-- Pointers that are stored at one place are the same. -/
theorem Stores.pointers_eq {words others : List UInt64}
    (stored : content.Stores order width offset (words.map UInt64.toNat))
    (also : content.Stores order width offset (others.map UInt64.toNat)) {count : Nat} (few : count ≤ words.length)
    (enough : count ≤ others.length) : words.take count = others.take count := by
  have numbers : (words.map UInt64.toNat).take count = (others.map UInt64.toNat).take count :=
    stored.take_eq also (by rwa [List.length_map]) (by rwa [List.length_map])
  rw [← List.map_take, ← List.map_take] at numbers
  exact List.map_injective_iff.mpr (fun _ _ => UInt64.toNat_inj.mp) numbers

theorem Stores.take {words : List Nat} (stored : content.Stores order width offset words) (count : Nat) :
    content.Stores order width offset (words.take count) := by
  intro place word listed
  rw [List.getElem?_take] at listed
  split at listed
  next => exact stored place word listed
  next => cases listed

theorem getElem?_beginning {place stop : Nat} (before : place < stop) :
    (content.extract 0 stop)[place]? = content[place]? := by
  have early : (content.extract 0 (0 + stop)).toList[place]? = content[0 + place]? := getElem?_toList_extract before
  rwa [Nat.zero_add, Nat.zero_add, Array.getElem?_toList] at early

/-- Words are not changed by what stands behind them. -/
theorem Stores.of_beginning {words : List Nat} (stored : content.Stores order width offset words) {stop : Nat}
    (within : offset + words.length * width ≤ stop) {other : Bytes}
    (same : other.extract 0 stop = content.extract 0 stop) : other.Stores order width offset words := by
  intro place word listed
  have early : (place + 1) * width ≤ words.length * width :=
    Nat.mul_le_mul_right width (List.getElem?_eq_some_iff.mp listed).1
  rw [Nat.add_mul, Nat.one_mul] at early
  have writes := stored place word listed
  refine ⟨writes.small, fun byte inside => ?_⟩
  have before : offset + place * width + byte < stop := by omega
  rw [← getElem?_beginning before, same, getElem?_beginning before]
  exact writes.bytes byte inside

/-- The records of a window are the full words that the content has there. -/
theorem records_window (content : Bytes) (order : Endian) (width start length : Nat) :
    ((content.window start length).records width).length = min length (content.size - start) / width ∧
    content.Stores order width start (((content.window start length).records width).map (order.value ·.toList)) := by
  have count : ((content.window start length).records width).length = min length (content.size - start) / width := by
    rw [records, List.length_map, List.length_range, size_window]
  refine ⟨count, fun place word listed => ?_⟩
  obtain ⟨inside, rfl⟩ := List.getElem?_eq_some_iff.mp listed
  rw [List.length_map, count] at inside
  have wide : 0 < width := Nat.pos_of_ne_zero fun empty => by simp [empty] at inside
  have fits : (place + 1) * width ≤ min length (content.size - start) :=
    Nat.le_trans (Nat.mul_le_mul_right width inside) (Nat.div_mul_le_self _ _)
  rw [Nat.add_mul, Nat.one_mul] at fits
  have stop : min (start + (place * width + width)) (min (start + length) content.size) =
      start + place * width + width := by omega
  refine (word_eq_some_iff wide).mp ?_
  rw [word_inside (by omega), List.getElem_map]
  simp only [records, List.getElem_map, List.getElem_range, window, Array.extract_extract, stop]

end Bytes

end IsaCensus
