import IsaCensus.Proofs.HeaderCodes
import IsaCensus.Proofs.TableReading

/-! Unwind tables that are cut off. A table of which only the first bytes are there, or that is read
under a lower limit, gives the first of its starts and no others: a field that was read is read
again when more bytes stand behind it, and the starts are those of entries in a row. -/

namespace IsaCensus.Unwind

theorem headerEncodings_append {data : List UInt8} (extra : List UInt8)
    (long : headerEncodings data ≠ .error (.truncated 0)) :
    headerEncodings (data ++ extra) =
      (headerEncodings data).map fun (encodings, cursor) => (encodings, cursor.extend extra) := by
  match data with
  | version :: framePointer :: count :: table :: rest =>
    simp only [List.cons_append, headerEncodings_eq]
    split
    next => rfl
    next => split <;> rfl
  | [] | [_] | [_, _] | [_, _, _] => exact absurd rfl long

/-- What a front says when there are more bytes behind it. -/
def Front.extend (extra : List UInt8) : Front → Front
  | .table encoding declared cursor => .table encoding declared (cursor.extend extra)
  | front => front

namespace Frame
variable {frame : Frame}

theorem skip_extend {cursor behind : Cursor} {field : Option Encoding} (extra : List UInt8)
    (skipped : frame.skip cursor field = some behind) :
    frame.skip (cursor.extend extra) field = some (behind.extend extra) := by
  cases field with
  | none =>
    cases skipped
    rfl
  | some encoding =>
    obtain ⟨⟨value, reached⟩, read, same⟩ := Option.map_eq_some_iff.mp skipped
    cases same
    simp only [skip, pointer_extend extra read, Option.map_some]

theorem front_append {data : List UInt8} (extra : List UInt8) (whole : frame.front data ≠ .faulty (.truncated 0)) :
    frame.front (data ++ extra) = (frame.front data).extend extra := by
  unfold front at whole ⊢
  have opening (long : headerEncodings data ≠ .error (.truncated 0)) := headerEncodings_append extra long
  cases opened : headerEncodings data with
  | error fault =>
    simp only [opened, ne_eq, Except.error.injEq, Front.faulty.injEq] at opening whole
    rw [opening whole]
    rfl
  | ok found =>
    obtain ⟨⟨framePointer, count, table⟩, cursor⟩ := found
    simp only [opened, ne_eq, reduceCtorEq, not_false_eq_true, forall_const] at opening whole
    rw [opening]
    cases skipped : frame.skip cursor framePointer with
    | none => exact absurd (by simp only [skipped]) whole
    | some behind =>
      simp only [Except.map, skipped, skip_extend extra skipped] at whole ⊢
      cases count with
      | none => rfl
      | some count =>
        cases table with
        | none => rfl
        | some table =>
          cases counted : frame.pointer count behind with
          | none => exact absurd (by simp only [counted]) whole
          | some declared => simp only [counted, pointer_extend extra counted, Front.extend]

end Frame

/-- A reader of starts that, given fewer bytes or a lower limit, gives the first of the starts. -/
structure CutsShort (read : Bytes → Nat → StartTable) : Prop where
  bytes : ∀ {cut whole : Bytes} {few many : Nat}, cut.toList <+: whole.toList → few ≤ many →
    (read cut few).starts <+: (read whole many).starts
  limit : ∀ (data : Bytes) {few many : Nat}, few ≤ many → (read data few).starts = (read data many).starts.take few

theorem frameHeader_limited (frame : Frame) (data : Bytes) {few many : Nat} (fewer : few ≤ many) :
    (frameHeaderStarts frame data few).starts = (frameHeaderStarts frame data many).starts.take few := by
  rw [frameHeaderStarts_eq, frameHeaderStarts_eq]
  cases frame.front data.toList with
  | faulty fault => exact List.take_nil.symm
  | tableless => exact List.take_nil.symm
  | table encoding declared cursor =>
    have narrower : min declared.toNat few ≤ min declared.toNat many := by omega
    have bounded := frame.length_startsAt_le encoding (min declared.toNat many) cursor
    simp only [Frame.behindFront, Frame.table_eq]
    rw [Frame.startsAt_take narrower, List.take_eq_take_iff]
    omega

theorem frameHeader_cut (frame : Frame) {cut whole : Bytes} (part : cut.toList <+: whole.toList) (limit : Nat) :
    (frameHeaderStarts frame cut limit).starts <+: (frameHeaderStarts frame whole limit).starts := by
  obtain ⟨extra, parts⟩ := part
  rw [frameHeaderStarts_eq, frameHeaderStarts_eq, ← parts]
  cases found : frame.front cut.toList with
  | faulty fault => exact List.nil_prefix
  | tableless => exact List.nil_prefix
  | table encoding declared cursor =>
    rw [Frame.front_append extra (by rw [found]; exact nofun), found]
    simp only [Front.extend, Frame.behindFront, Frame.table_eq]
    exact frame.startsAt_prefix_extend encoding extra _ cursor

theorem frameHeader_cutsShort (frame : Frame) : CutsShort (frameHeaderStarts frame) where
  bytes part fewer := by
    rw [frameHeader_limited frame _ fewer]
    exact (List.take_prefix _ _).trans (frameHeader_cut frame part _)
  limit data _ _ fewer := frameHeader_limited frame data fewer

/-- A header that was read without a fault does not depend on what stands behind it. -/
theorem frameHeader_append {frame : Frame} {data : Bytes} {limit : Nat}
    (faultless : (frameHeaderStarts frame data limit).fault = none) (extra : Bytes) :
    frameHeaderStarts frame (data ++ extra) limit = frameHeaderStarts frame data limit := by
  rw [frameHeaderStarts_eq] at faultless
  rw [frameHeaderStarts_eq, frameHeaderStarts_eq, Array.toList_append]
  cases found : frame.front data.toList with
  | faulty fault =>
    rw [found] at faultless
    cases faultless
  | tableless =>
    rw [Frame.front_append _ (by rw [found]; exact nofun), found]
    rfl
  | table encoding declared cursor =>
    rw [Frame.front_append _ (by rw [found]; exact nofun), found]
    simp only [found, Frame.behindFront, Frame.table_eq] at faultless
    have bounded := frame.length_startsAt_le encoding (min declared.toNat limit) cursor
    have full : (frame.startsAt encoding (min declared.toNat limit) cursor).length = min declared.toNat limit := by
      split at faultless
      next => cases faultless
      next enough => omega
    simp only [Front.extend, Frame.behindFront, Frame.table_eq, Frame.startsAt_extend extra.toList full]

/-- The first word of the record at a place. -/
def recordStart (data : Bytes) (place : Nat) : Nat := littleValue ((data.toList.drop (12 * place)).take 4)

theorem runtimeFunctionStarts_eq (data : Bytes) (limit : Nat) : runtimeFunctionStarts data limit =
    { starts := (List.range (min (data.size / 12) limit)).map fun place => (recordStart data place).toUInt64
      fault := if limit < data.size / 12 then some (.entryLimit (data.size / 12) limit) else none } := by
  have cut (place : Nat) : (data.extract (place * 12) (place * 12 + 12)).toList.take 4 =
      (data.toList.drop (12 * place)).take 4 := by
    rw [Array.toList_extract, List.extract_eq_take_drop, Nat.add_sub_cancel_left, List.take_take, Nat.mul_comm]
    rfl
  have starts : ((data.records 12).take limit).map (fun record => (littleValue (record.toList.take 4)).toUInt64) =
      (List.range (min (data.size / 12) limit)).map fun place => (recordStart data place).toUInt64 := by
    rw [Bytes.records, ← List.map_take, List.take_range, List.map_map, Nat.min_comm]
    exact List.map_congr_left fun place _ => congrArg (fun word => (littleValue word).toUInt64) (cut place)
  rw [← starts]
  rfl

theorem word_eq_recordStart {data : Bytes} {place : Nat} (inside : place < data.size / 12) :
    data.word? .little 4 (12 * place) = some (recordStart data place) := by
  have fits : 12 * place + 4 ≤ data.size := by omega
  rw [Bytes.word_inside fits, Endian.value, Array.toList_extract, List.extract_eq_take_drop, Nat.add_sub_cancel_left]
  rfl

theorem recordStart_lt {data : Bytes} {place : Nat} (inside : place < data.size / 12) :
    recordStart data place < capacity 4 := by
  have length : ((data.toList.drop (12 * place)).take 4).length = 4 := by
    rw [List.length_take, List.length_drop, Array.length_toList]
    omega
  exact Nat.lt_of_lt_of_eq (littleValue_lt _) (congrArg capacity length)

theorem recordStart_cut {cut whole : Bytes} (part : cut.toList <+: whole.toList) {place : Nat}
    (inside : place < cut.size / 12) : recordStart cut place = recordStart whole place := by
  obtain ⟨extra, parts⟩ := part
  have early : 12 * place ≤ cut.toList.length := by
    rw [Array.length_toList]
    omega
  have whole : 4 ≤ (cut.toList.drop (12 * place)).length := by
    rw [List.length_drop, Array.length_toList]
    omega
  rw [recordStart, recordStart, ← parts, List.drop_append_of_le_length early, List.take_append_of_le_length whole]

theorem runtimeFunction_cutsShort : CutsShort runtimeFunctionStarts where
  bytes {cut whole few many} part fewer := by
    have shorter : cut.size ≤ whole.size := part.length_le
    have within : min (cut.size / 12) few ≤ min (whole.size / 12) many := by omega
    have places : List.range (min (cut.size / 12) few) <+: List.range (min (whole.size / 12) many) := by
      rw [← Nat.min_eq_left within, ← List.take_range]
      exact List.take_prefix _ _
    have same : (List.range (min (cut.size / 12) few)).map (fun place => (recordStart cut place).toUInt64) =
        (List.range (min (cut.size / 12) few)).map fun place => (recordStart whole place).toUInt64 := by
      refine List.map_congr_left fun place listed => ?_
      have inside := List.mem_range.mp listed
      rw [recordStart_cut part (by omega)]
    rw [runtimeFunctionStarts_eq, runtimeFunctionStarts_eq, same]
    exact places.map _
  limit data few many fewer := by
    have lower : min few (min (data.size / 12) many) = min (data.size / 12) few := by omega
    rw [runtimeFunctionStarts_eq, runtimeFunctionStarts_eq, ← List.map_take, List.take_range, lower]

/-- The starts are the first words of the records in a table, up to the limit. -/
structure Packed (data : Bytes) (limit : Nat) (table : StartTable) : Prop where
  length : table.starts.length = min (data.size / 12) limit
  start : ∀ (place : Nat) (start : UInt64), table.starts[place]? = some start →
    data.word? .little 4 (12 * place) = some start.toNat
  fault : ∀ fault, table.fault = some fault ↔
    fault = .entryLimit (data.size / 12) limit ∧ limit < data.size / 12

theorem runtimeFunction_packed (data : Bytes) (limit : Nat) :
    Packed data limit (runtimeFunctionStarts data limit) := by
  constructor
  · rw [runtimeFunctionStarts_eq, List.length_map, List.length_range]
  · intro place start listed
    rw [runtimeFunctionStarts_eq, List.getElem?_map, Option.map_eq_some_iff] at listed
    obtain ⟨record, found, rfl⟩ := listed
    obtain ⟨listed, same⟩ := List.getElem?_eq_some_iff.mp found
    rw [List.getElem_range] at same
    subst same
    rw [List.length_range] at listed
    have inside : place < data.size / 12 := by omega
    have small : (recordStart data place).toUInt64.toNat = recordStart data place :=
      Nat.mod_eq_of_lt (Nat.lt_of_lt_of_le (recordStart_lt inside) (by decide))
    rw [word_eq_recordStart inside, small]
  · intro fault
    rw [runtimeFunctionStarts_eq, Option.ite_none_right_eq_some, Option.some.injEq]
    exact ⟨fun ⟨exceeds, same⟩ => ⟨same.symm, exceeds⟩, fun ⟨same, exceeds⟩ => ⟨exceeds, same.symm⟩⟩

/-- A record that is cut off at the end of a table is not one. -/
theorem runtimeFunction_whole (data : Bytes) (limit : Nat) :
    runtimeFunctionStarts (data.extract 0 (12 * (data.size / 12))) limit = runtimeFunctionStarts data limit := by
  have records : (data.extract 0 (12 * (data.size / 12))).size / 12 = data.size / 12 := by
    rw [Array.size_extract]
    omega
  have part : (data.extract 0 (12 * (data.size / 12))).toList <+: data.toList := by
    rw [Array.toList_extract, List.extract_eq_take_drop, List.drop_zero]
    exact List.take_prefix _ _
  rw [runtimeFunctionStarts_eq, runtimeFunctionStarts_eq, records, StartTable.mk.injEq]
  refine ⟨List.map_congr_left fun place listed => ?_, rfl⟩
  have inside := List.mem_range.mp listed
  rw [recordStart_cut part (by omega)]

/-- Of a table that is cut off, or read under a lower limit, one gets the first of its starts and
nothing else. A frame header that is read without a fault is all there, so bytes behind it change
nothing. Packed records are read word by word, up to the last one that is whole. -/
theorem cut_table_gives_first_starts (frame : Frame) :
    CutsShort (frameHeaderStarts frame) ∧
    (∀ (data : Bytes) (limit : Nat), (frameHeaderStarts frame data limit).fault = none →
      ∀ extra : Bytes, frameHeaderStarts frame (data ++ extra) limit = frameHeaderStarts frame data limit) ∧
    CutsShort runtimeFunctionStarts ∧
    (∀ (data : Bytes) (limit : Nat), Packed data limit (runtimeFunctionStarts data limit) ∧
      runtimeFunctionStarts (data.extract 0 (12 * (data.size / 12))) limit = runtimeFunctionStarts data limit) :=
  ⟨frameHeader_cutsShort frame, fun _ _ faultless extra => frameHeader_append faultless extra,
    runtimeFunction_cutsShort, fun data limit => ⟨runtimeFunction_packed data limit, runtimeFunction_whole data limit⟩⟩

/-- A frame header with two functions. -/
def twoFunctions : Bytes :=
  #[1, 0xff, 0x03, 0x03, 2, 0, 0, 0, 0x10, 0, 0, 0, 0x90, 0, 0, 0, 0x20, 0, 0, 0, 0x98, 0, 0, 0]

/-- The header without its last two bytes, which belong to the second function. -/
def twoFunctionsCut : Bytes := twoFunctions.extract 0 22

theorem twoFunctions_cut :
    twoFunctionsCut.toList <+: twoFunctions.toList ∧
    (frameHeaderStarts ⟨.little, 0, 8⟩ twoFunctionsCut 5).starts = [0x10] ∧
    [0x10] <+: (frameHeaderStarts ⟨.little, 0, 8⟩ twoFunctions 9).starts ∧
    (frameHeaderStarts ⟨.little, 0, 8⟩ twoFunctions 5).fault = none ∧
    frameHeaderStarts ⟨.little, 0, 8⟩ (twoFunctions ++ #[0xff]) 5 =
      frameHeaderStarts ⟨.little, 0, 8⟩ twoFunctions 5 := by
  obtain ⟨cutsShort, unmoved, _⟩ := cut_table_gives_first_starts ⟨.little, 0, 8⟩
  have part : twoFunctionsCut.toList <+: twoFunctions.toList := by decide
  have one : (frameHeaderStarts ⟨.little, 0, 8⟩ twoFunctionsCut 5).starts = [0x10] := by decide +kernel
  have faultless : (frameHeaderStarts ⟨.little, 0, 8⟩ twoFunctions 5).fault = none := by decide +kernel
  have first := cutsShort.bytes part (show 5 ≤ 9 by decide)
  rw [one] at first
  exact ⟨part, one, first, faultless, unmoved twoFunctions 5 faultless #[0xff]⟩

end IsaCensus.Unwind
