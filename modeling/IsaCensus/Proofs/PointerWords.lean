import Mathlib.Data.List.TakeWhile
import IsaCensus.Proofs.RegionReads
import IsaCensus.Proofs.SeedIsolation
import IsaCensus.Proofs.StoredWords

/-! What is read of an array of code pointers: the full words that its size, its range, the limit on
entries and the end of the file all leave. An array without a size ends at its first zero word, and
nothing that stands behind this word is looked at. -/

namespace IsaCensus

theorem Layout.pointerSize_pos (layout : Layout) : 0 < layout.pointerSize := by
  unfold pointerSize
  split <;> decide

/-- A word of the size of a pointer is a machine word. -/
theorem Layout.pointer_lt {layout : Layout} {content : Bytes} {offset word : Nat}
    (writes : content.Writes layout.order layout.pointerSize offset word) : word < UInt64.size := by
  have small : capacity layout.pointerSize ≤ UInt64.size := by
    unfold pointerSize
    split <;> decide
  exact Nat.lt_of_lt_of_le writes.small small

namespace PointerArray

/-- How many words there are to be read of an array, at an offset with so many bytes behind it. -/
def room (array : PointerArray) (content : Bytes) (width : Nat) (limit offset remaining : UInt64) : Nat :=
  min (min (min (array.size.getD remaining).toNat remaining.toNat) (limit.toNat * width))
    (content.size - offset.toNat) / width

variable {array : PointerArray} {content : Bytes} {limit offset remaining : UInt64}

/-- The limit on bytes may stop at the greatest machine word, which no range is longer than. -/
theorem toNat_wanted (width : Nat) : (array.wanted width limit remaining).toNat =
    min (min (array.size.getD remaining).toNat remaining.toNat) (limit.toNat * width) := by
  have bound : remaining.toNat ≤ UInt64.size - 1 := Nat.le_sub_one_of_lt remaining.toNat_lt
  have capped : (min (limit.toNat * width) (UInt64.size - 1)).toUInt64.toNat =
      min (limit.toNat * width) (UInt64.size - 1) :=
    UInt64.toNat_ofNat_of_lt' (Nat.lt_of_le_of_lt (Nat.min_le_right _ _) (by decide))
  simp only [wanted, MappedRange.toNat_min, capped]
  omega

theorem le_room_iff {width count : Nat} (wide : 0 < width) :
    count ≤ array.room content width limit offset remaining ↔
      count * width ≤ min (min (array.size.getD remaining).toNat remaining.toNat) (limit.toNat * width) ∧
        count * width ≤ content.size - offset.toNat := by
  rw [room, Nat.le_div_iff_mul_le wide, Nat.le_min]

theorem room_le {width : Nat} (wide : 0 < width) : array.room content width limit offset remaining ≤ limit.toNat := by
  obtain ⟨allowed, _⟩ := (le_room_iff wide).mp (Nat.le_refl (array.room content width limit offset remaining))
  exact Nat.le_of_mul_le_mul_right (Nat.le_trans allowed (Nat.min_le_right _ _)) wide

/-- An array is read word for word. -/
theorem reading_mapped {layout : Layout} (config : Config) (content : Bytes)
    (mapped : layout.fileOffset? array.address = some (offset, remaining)) :
    ∃ words : List UInt64,
      words.length = array.room content layout.pointerSize config.maxPointerArrayEntries offset remaining ∧
      content.Stores layout.order layout.pointerSize offset.toNat (words.map UInt64.toNat) ∧
      array.reading layout config (.memory content) =
        ({ offer := ⟨array.name, array.candidates words⟩ }, .memory content) := by
  let wanted := array.wanted layout.pointerSize config.maxPointerArrayEntries remaining
  let records := (content.window offset.toNat wanted.toNat).records layout.pointerSize
  obtain ⟨count, stored⟩ := content.records_window layout.order layout.pointerSize offset.toNat wanted.toNat
  have numbers : (records.map fun record => (layout.order.value record.toList).toUInt64).map UInt64.toNat =
      records.map (layout.order.value ·.toList) := by
    rw [List.map_map]
    refine List.map_congr_left fun record member => UInt64.toNat_ofNat_of_lt' ?_
    obtain ⟨place, listed⟩ := List.mem_iff_getElem?.mp member
    exact Layout.pointer_lt (stored place _ (by rw [List.getElem?_map, listed]; rfl))
  refine ⟨records.map fun record => (layout.order.value record.toList).toUInt64, ?_, ?_, ?_⟩
  · rw [List.length_map, count, toNat_wanted, room]
  · rwa [numbers]
  · simp only [reading, Reading.ofTable, mapped, Source.read_memory]
    rfl

/-- What an array offers for the words in it. One with a size offers something for every word, and
nothing is subtracted from the zeros that fill it up. One without a size ends before its first zero. -/
structure Offers (array : PointerArray) (words candidates : List UInt64) : Prop where
  sized : ∀ size, array.size = some size → candidates.length = words.length ∧
    ∀ (place : Nat) word, words[place]? = some word → candidates[place]? = some (if word = 0 then 0 else word - array.bias)
  ended : array.size = none → candidates.length = words.findIdx (· == 0) ∧
    ∀ (place : Nat) word, place < words.findIdx (· == 0) → words[place]? = some word →
      candidates[place]? = some (word - array.bias)

theorem candidates_ended (endless : array.size = none) (words : List UInt64) :
    array.candidates words = (words.take (words.findIdx (· == 0))).map (· - array.bias) := by
  have zero : (fun word : UInt64 => !decide (word ≠ 0)) = (· == 0) := by
    funext word
    by_cases same : word = 0 <;> simp [same]
  simp only [candidates, endless, List.takeWhile_eq_take_findIdx_not, zero]

theorem offers_candidates (array : PointerArray) (words : List UInt64) :
    array.Offers words (array.candidates words) := by
  refine ⟨fun size sized => ?_, fun endless => ?_⟩
  · simp only [candidates, sized]
    refine ⟨List.length_map _, fun place word listed => ?_⟩
    rw [List.getElem?_map, listed]
    rfl
  · rw [candidates_ended endless]
    refine ⟨?_, fun place word before listed => ?_⟩
    · rw [List.length_map, List.length_take, Nat.min_eq_left List.findIdx_le_length]
    · rw [List.getElem?_map, List.getElem?_take_of_lt before, listed]
      rfl

/-- The words settle what is offered. -/
theorem Offers.unique {words candidates others : List UInt64} (offers : array.Offers words candidates)
    (also : array.Offers words others) : candidates = others := by
  apply List.ext_getElem?
  intro place
  cases size : array.size with
  | some =>
    obtain ⟨length, placed⟩ := offers.sized _ size
    obtain ⟨same, likewise⟩ := also.sized _ size
    rcases Nat.lt_or_ge place words.length with inside | outside
    · have listed := List.getElem?_eq_getElem inside
      rw [placed place _ listed, likewise place _ listed]
    · rw [List.getElem?_eq_none (length ▸ outside), List.getElem?_eq_none (same ▸ outside)]
  | none =>
    obtain ⟨length, placed⟩ := offers.ended size
    obtain ⟨same, likewise⟩ := also.ended size
    rcases Nat.lt_or_ge place (words.findIdx (· == 0)) with before | behind
    · have listed := List.getElem?_eq_getElem (Nat.lt_of_lt_of_le before List.findIdx_le_length)
      rw [placed place _ before listed, likewise place _ before listed]
    · rw [List.getElem?_eq_none (length ▸ behind), List.getElem?_eq_none (same ▸ behind)]

theorem length_candidates_le (array : PointerArray) (words : List UInt64) :
    (array.candidates words).length ≤ words.length := by
  cases size : array.size with
  | some => exact Nat.le_of_eq ((offers_candidates array words).sized _ size).1
  | none =>
    rw [((offers_candidates array words).ended size).1]
    exact List.findIdx_le_length

/-- Behind a zero, an array without a size goes unread. -/
theorem candidates_take (endless : array.size = none) {words : List UInt64} {count : Nat}
    (zero : 0 ∈ words.take count) : array.candidates (words.take count) = array.candidates words := by
  have stops : ((words.take count).takeWhile (· ≠ 0)).length ≠ (words.take count).length := by
    intro full
    have whole := (List.takeWhile_prefix _).eq_of_length full
    have nonzero := List.takeWhile_eq_self_iff.mp whole 0 zero
    exact absurd nonzero (by decide)
  have parts : words.takeWhile (· ≠ 0) = (words.take count).takeWhile (· ≠ 0) := by
    conv => lhs; rw [← List.take_append_drop count words, List.takeWhile_append, if_neg stops]
  simp only [candidates, endless, parts]

/-- Targets that a bias was added to are offered without it, up to the zero behind them. -/
theorem candidates_biased (endless : array.size = none) {targets rest : List UInt64}
    (nonzero : ∀ target ∈ targets, array.bias + target ≠ 0) (ended : rest.takeWhile (· ≠ 0) = []) :
    array.candidates (targets.map (array.bias + ·) ++ rest) = targets := by
  have pointers : ∀ word ∈ targets.map (array.bias + ·), decide (word ≠ 0) = true := by
    intro word member
    obtain ⟨target, listed, rfl⟩ := List.mem_map.mp member
    exact decide_eq_true (nonzero target listed)
  simp only [candidates, endless, List.takeWhile_append_of_pos pointers, ended, List.append_nil, List.map_map]
  have unbiased : ((· - array.bias) ∘ (array.bias + ·)) = (id : UInt64 → UInt64) := by
    funext target
    exact (congrArg (· - array.bias) (UInt64.add_comm array.bias target)).trans (UInt64.add_sub_cancel target array.bias)
  rw [unbiased, List.map_id]

/-- An array of biased targets that ends at a zero word gives the targets, as many as the limit on
entries allows. -/
theorem reading_terminated {layout : Layout} {config : Config} (endless : array.size = none)
    (mapped : layout.fileOffset? array.address = some (offset, remaining)) {targets : List UInt64}
    (stored : content.Stores layout.order layout.pointerSize offset.toNat
      ((targets.map (array.bias + ·) ++ [0]).map UInt64.toNat))
    (nonzero : ∀ target ∈ targets, array.bias + target ≠ 0)
    (placed : (targets.length + 1) * layout.pointerSize ≤ remaining.toNat) :
    array.reading layout config (.memory content) =
      ({ offer := ⟨array.name, targets.take config.maxPointerArrayEntries.toNat⟩ }, .memory content) := by
  obtain ⟨words, count, also, reading⟩ := reading_mapped config content mapped
  have wide := layout.pointerSize_pos
  have inside : offset.toNat + targets.length * layout.pointerSize + layout.pointerSize ≤ content.size := by
    refine Bytes.Writes.inside wide (stored targets.length 0 ?_)
    rw [List.map_append, List.getElem?_append_right (by rw [List.length_map, List.length_map]), List.length_map,
      List.length_map, Nat.sub_self]
    rfl
  have reach {few : Nat} (stored : few ≤ targets.length + 1) (allowed : few ≤ config.maxPointerArrayEntries.toNat) :
      few ≤ words.length := by
    have bytes := Nat.mul_le_mul_right layout.pointerSize stored
    have entries := Nat.mul_le_mul_right layout.pointerSize allowed
    rw [Nat.add_mul, Nat.one_mul] at bytes placed
    rw [count, le_room_iff wide, endless, Option.getD_none]
    omega
  have length : (targets.map (array.bias + ·) ++ [0]).length = targets.length + 1 := by
    rw [List.length_append, List.length_map, List.length_singleton]
  by_cases all : targets.length + 1 ≤ config.maxPointerArrayEntries.toNat
  · -- The zero is among the words that are read.
    have agree := stored.pointers_eq also (Nat.le_of_eq length.symm) (reach (Nat.le_refl _) all)
    rw [List.take_of_length_le (Nat.le_of_eq length)] at agree
    have ended : 0 ∈ words.take (targets.length + 1) := agree ▸ List.mem_append_right _ (List.mem_singleton_self 0)
    rw [reading, ← candidates_take endless ended, ← agree, candidates_biased endless nonzero rfl,
      List.take_of_length_le (by omega)]
  · -- The limit on entries is reached before the zero.
    have limited : config.maxPointerArrayEntries.toNat ≤ targets.length := by omega
    have few : words.length ≤ config.maxPointerArrayEntries.toNat := count ▸ room_le wide
    have agree := stored.pointers_eq also (by omega) (reach (by omega) (Nat.le_refl _))
    rw [List.take_of_length_le few, List.take_append_of_le_length (by rwa [List.length_map]), ← List.map_take] at agree
    have taken : ∀ target ∈ targets.take config.maxPointerArrayEntries.toNat, array.bias + target ≠ 0 :=
      fun target member => nonzero target (List.mem_of_mem_take member)
    have offered : array.candidates ((targets.take config.maxPointerArrayEntries.toNat).map (array.bias + ·) ++ []) =
        targets.take config.maxPointerArrayEntries.toNat := candidates_biased endless taken rfl
    rw [List.append_nil] at offered
    rw [reading, ← agree, offered]

/-- Of an array without a size, the bytes behind a zero word can be any, or missing. -/
theorem reading_stopped {layout : Layout} {config : Config} (endless : array.size = none)
    (mapped : layout.fileOffset? array.address = some (offset, remaining)) {words : List UInt64}
    (length : words.length = array.room content layout.pointerSize config.maxPointerArrayEntries offset remaining)
    (stored : content.Stores layout.order layout.pointerSize offset.toNat (words.map UInt64.toNat)) {stop : Nat}
    (zero : words[stop]? = some 0) {other : Bytes}
    (same : other.extract 0 (offset.toNat + (stop + 1) * layout.pointerSize) =
      content.extract 0 (offset.toNat + (stop + 1) * layout.pointerSize)) :
    (array.reading layout config (.memory other)).1 = { offer := ⟨array.name, array.candidates words⟩ } := by
  obtain ⟨others, count, also, reading⟩ := reading_mapped config other mapped
  have wide := layout.pointerSize_pos
  obtain ⟨early, _⟩ := List.getElem?_eq_some_iff.mp zero
  obtain ⟨allowed, within⟩ := (le_room_iff wide).mp (show stop + 1 ≤ _ from length ▸ early)
  have positive : 0 < (stop + 1) * layout.pointerSize := Nat.mul_pos (Nat.succ_pos stop) wide
  have sizes := congrArg Array.size same
  rw [Array.size_extract, Array.size_extract] at sizes
  have reach : stop + 1 ≤ others.length := count ▸ (le_room_iff wide).mpr ⟨allowed, by omega⟩
  have beginning : (words.take (stop + 1)).length = stop + 1 := List.length_take_of_le early
  have kept : other.Stores layout.order layout.pointerSize offset.toNat ((words.take (stop + 1)).map UInt64.toNat) := by
    rw [List.map_take]
    refine (stored.take (stop + 1)).of_beginning ?_ same
    rw [← List.map_take, List.length_map, beginning]
  have agree := kept.pointers_eq also (Nat.le_of_eq beginning.symm) reach
  rw [List.take_take, Nat.min_self] at agree
  have ended : 0 ∈ words.take (stop + 1) :=
    List.mem_of_getElem? ((List.getElem?_take_of_lt (Nat.lt_succ_self stop)).trans zero)
  rw [reading, ← candidates_take endless (agree ▸ ended), ← agree, candidates_take endless ended]

/-- Pointer arrays are read word for word. As many words are read as the size of the array, its range,
the limit on entries and the end of the file leave, and the array offers what it makes of them. What
an array without a size offers is settled by its bytes up to a zero word. An array at an address
without bytes in the file offers nothing, and tells of it. -/
theorem reading_word_for_word (layout : Layout) (config : Config) (array : PointerArray) (content : Bytes) :
    (∀ offset remaining, layout.fileOffset? array.address = some (offset, remaining) →
      ∃ words candidates : List UInt64,
        words.length = array.room content layout.pointerSize config.maxPointerArrayEntries offset remaining ∧
        content.Stores layout.order layout.pointerSize offset.toNat (words.map UInt64.toNat) ∧
        array.reading layout config (.memory content) = ({ offer := ⟨array.name, candidates⟩ }, .memory content) ∧
        array.Offers words candidates ∧ candidates.length ≤ config.maxPointerArrayEntries.toNat ∧
        (array.size = none → ∀ stop, words[stop]? = some 0 → ∀ other : Bytes,
          other.extract 0 (offset.toNat + (stop + 1) * layout.pointerSize) =
            content.extract 0 (offset.toNat + (stop + 1) * layout.pointerSize) →
          (array.reading layout config (.memory other)).1 = { offer := ⟨array.name, candidates⟩ })) ∧
    (layout.fileOffset? array.address = none →
      array.reading layout config (.memory content) =
        ({ offer := ⟨array.name, []⟩
           issue := some ⟨.seedSource,
            array.name ++ ": " ++ ("address " ++ Text.hex array.address.toNat ++ " has no file data")⟩ },
          .memory content)) := by
  refine ⟨fun offset remaining mapped => ?_, Reading.ofTable_unmapped⟩
  obtain ⟨words, length, stored, reading⟩ := reading_mapped config content mapped
  have few := Nat.le_trans (length_candidates_le array words) (Nat.le_trans (Nat.le_of_eq length)
    (room_le layout.pointerSize_pos))
  exact ⟨words, array.candidates words, length, stored, reading, offers_candidates array words, few,
    fun endless _ zero _ same => reading_stopped endless mapped length stored zero same⟩

/-- Two arrays at one place, and the words that stand there. -/
def constructors : PointerArray := { name := ".init_array", address := 0x1000, size := some 14, bias := 0x1000 }

def callbacks : PointerArray := { name := "tls_callbacks", address := 0x1000, bias := 0x1000 }

def arrayWords : List UInt64 := [0x1010, 0, 0x1020]

def arrayLayout (order : Endian) : Layout where
  format := .elf
  architecture := .other
  bitness := 32
  order := order
  sections := [{ label := ".data", base := 0x1000, fileOffset := some 2, length := 18 }]

def arrayFile : Endian → Bytes
  | .little => #[0xff, 0xff, 0x10, 0x10, 0, 0, 0, 0, 0, 0, 0x20, 0x10, 0, 0, 0, 0]
  | .big => #[0xff, 0xff, 0, 0, 0x10, 0x10, 0, 0, 0, 0, 0, 0, 0x10, 0x20, 0, 0]

/-- The file without what follows the zero word. -/
def arrayStump (order : Endian) : Bytes := (arrayFile order).extract 0 10

theorem arrayFile_stores (order : Endian) :
    (arrayFile order).Stores order 4 2 (arrayWords.map UInt64.toNat) := by
  intro place word listed
  match place with
  | 0 | 1 | 2 =>
    cases listed
    cases order <;> exact ⟨by decide, by decide⟩
  | _ + 3 => cases listed

/-- What is read of the two arrays in a byte order. -/
structure ArraysRead (order : Endian) : Prop where
  mapped : (arrayLayout order).fileOffset? 0x1000 = some (2, 18)
  stored : (arrayFile order).Stores order 4 2 (arrayWords.map UInt64.toNat)
  sized : (constructors.reading (arrayLayout order) {} (.memory (arrayFile order))).1 =
    { offer := ⟨".init_array", [0x10, 0, 0x20]⟩ }
  ended : (callbacks.reading (arrayLayout order) {} (.memory (arrayFile order))).1 =
    { offer := ⟨"tls_callbacks", [0x10]⟩ }
  stump : (callbacks.reading (arrayLayout order) {} (.memory (arrayStump order))).1 =
    { offer := ⟨"tls_callbacks", [0x10]⟩ }

theorem arrays_read : ArraysRead .little ∧ ArraysRead .big := by
  have mapped (order : Endian) : (arrayLayout order).fileOffset? 0x1000 = some (2, 18) := rfl
  have found {order : Endian} {words : List UInt64} (three : words.length = 3)
      (also : (arrayFile order).Stores order 4 2 (words.map UInt64.toNat)) : words = arrayWords := by
    have same := also.pointers_eq (arrayFile_stores order) (Nat.le_of_eq three.symm) (Nat.le_refl 3)
    rwa [List.take_of_length_le (Nat.le_of_eq three)] at same
  have read (order : Endian) : ArraysRead order := by
    obtain ⟨words, candidates, length, stored, sized, offers, _⟩ :=
      (reading_word_for_word (arrayLayout order) {} constructors (arrayFile order)).1 2 18 (mapped order)
    obtain rfl := found (length.trans (by cases order <;> rfl)) stored
    obtain rfl := offers.unique (offers_candidates constructors arrayWords)
    obtain ⟨words, candidates, length, stored, ended, offers, _, unchanged⟩ :=
      (reading_word_for_word (arrayLayout order) {} callbacks (arrayFile order)).1 2 18 (mapped order)
    obtain rfl := found (length.trans (by cases order <;> rfl)) stored
    obtain rfl := offers.unique (offers_candidates callbacks arrayWords)
    refine ⟨mapped order, stored, congrArg Prod.fst sized, congrArg Prod.fst ended, ?_⟩
    exact unchanged rfl 1 rfl (arrayStump order) (by cases order <;> decide)
  exact ⟨read .little, read .big⟩

end PointerArray

end IsaCensus
