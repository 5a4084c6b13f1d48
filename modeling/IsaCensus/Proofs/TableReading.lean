import IsaCensus.Unwind.Table

/-! The reading of a frame header, taken apart. Every field is read from bytes of its own, so what
stands behind a field that was read does not matter to it. A header begins with its front, which
says where the entries are and how many there should be, and the limit only plays a part after
that: the starts are those of the entries up to the first that cannot be read. -/

namespace IsaCensus.Unwind

/-- What is read at the front of some bytes takes one of them at least and none that is missing,
and it is read again whatever stands behind the bytes. -/
structure SelfContained {β : Type} (read : List UInt8 → Option (β × Nat)) : Prop where
  takes : ∀ {bytes value length}, read bytes = some (value, length) → 0 < length ∧ length ≤ bytes.length
  stable : ∀ {bytes value length} (extra : List UInt8), read bytes = some (value, length) →
    read (bytes ++ extra) = some (value, length)

namespace SelfContained
variable {β γ : Type}

theorem map {read : List UInt8 → Option (β × Nat)} (contained : SelfContained read) (f : β → γ) :
    SelfContained fun bytes => (read bytes).map fun found => (f found.1, found.2) := by
  constructor
  · intro bytes value length found
    obtain ⟨⟨raw, taken⟩, first, same⟩ := Option.map_eq_some_iff.mp found
    cases same
    exact contained.takes first
  · intro bytes value length extra found
    obtain ⟨⟨raw, taken⟩, first, same⟩ := Option.map_eq_some_iff.mp found
    cases same
    simp only [contained.stable extra first, Option.map_some]

/-- A number that is read byte by byte. At each place, a byte alone decides the answer or leaves it
to the bytes behind it. -/
theorem of_bytes {read : Nat → List UInt8 → Option (β × Nat)} (empty : ∀ place, read place [] = none)
    (step : ∀ place byte,
      (∃ answer : Option β, ∀ rest, read place (byte :: rest) = answer.map fun value => (value, 1)) ∨
      ∃ join : β → β, ∀ rest, read place (byte :: rest) =
        (read (place + 1) rest).map fun (high, length) => (join high, length + 1))
    (place : Nat) : SelfContained (read place) := by
  constructor
  · intro bytes
    induction bytes generalizing place with
    | nil =>
      intro value length found
      rw [empty] at found
      cases found
    | cons byte rest ih =>
      intro value length found
      rcases step place byte with ⟨answer, decided⟩ | ⟨join, left⟩
      · rw [decided] at found
        obtain ⟨_, _, same⟩ := Option.map_eq_some_iff.mp found
        cases same
        simp
      · rw [left] at found
        obtain ⟨⟨high, taken⟩, later, same⟩ := Option.map_eq_some_iff.mp found
        cases same
        have inside := ih (place + 1) later
        rw [List.length_cons]
        omega
  · intro bytes
    induction bytes generalizing place with
    | nil =>
      intro value length extra found
      rw [empty] at found
      cases found
    | cons byte rest ih =>
      intro value length extra found
      rw [List.cons_append]
      rcases step place byte with ⟨answer, decided⟩ | ⟨join, left⟩
      · rw [decided] at found ⊢
        exact found
      · rw [left] at found ⊢
        obtain ⟨⟨high, taken⟩, later, same⟩ := Option.map_eq_some_iff.mp found
        rw [ih (place + 1) extra later, Option.map_some, same]

end SelfContained

theorem unsigned_selfContained (place : Nat) : SelfContained (unsigned place) := by
  refine .of_bytes (fun _ => rfl) ?_ place
  intro place byte
  by_cases refused : place = 9 ∧ 1 < byte
  · exact .inl ⟨none, fun rest => by rw [unsigned, if_pos refused]; rfl⟩
  by_cases last : byte < 0x80
  · exact .inl ⟨some byte.toNat, fun rest => by rw [unsigned, if_neg refused, if_pos last]; rfl⟩
  · exact .inr ⟨(byte.toNat - 128 + 128 * ·), fun rest => by rw [unsigned, if_neg refused, if_neg last]⟩

theorem signed_selfContained (place : Nat) : SelfContained (signed place) := by
  refine .of_bytes (fun _ => rfl) ?_ place
  intro place byte
  by_cases refused : place = 9 ∧ byte ≠ 0 ∧ byte ≠ 0x7f
  · exact .inl ⟨none, fun rest => by rw [signed, if_pos refused]; rfl⟩
  by_cases last : byte < 0x80
  · exact .inl ⟨some (signedGroup byte), fun rest => by rw [signed, if_neg refused, if_pos last]; rfl⟩
  · exact .inr ⟨((byte.toNat : Int) - 128 + 128 * ·), fun rest => by rw [signed, if_neg refused, if_neg last]⟩

namespace Frame
variable (frame : Frame)

theorem word_selfContained {width : Nat} (positive : 0 < width) :
    SelfContained fun bytes => (frame.word? width bytes).map fun n => (n, width) := by
  constructor
  · intro bytes value length found
    obtain ⟨word, read, same⟩ := Option.map_eq_some_iff.mp found
    cases same
    simp only [word?, List.length_take, Option.ite_none_right_eq_some] at read
    omega
  · intro bytes value length extra found
    obtain ⟨word, read, same⟩ := Option.map_eq_some_iff.mp found
    cases same
    simp only [word?, Option.ite_none_right_eq_some] at read
    have inside : width ≤ bytes.length := by
      rw [List.length_take] at read
      omega
    simp only [word?, List.take_append_of_le_length inside, if_pos read.1, read.2, Option.map_some]

theorem unsignedWord_selfContained {width : Nat} (positive : 0 < width) :
    SelfContained (frame.unsignedWord width) := by
  have whole := (frame.word_selfContained positive).map fun n : Nat => (n : Int)
  have same (bytes : List UInt8) : frame.unsignedWord width bytes =
      ((frame.word? width bytes).map fun n => (n, width)).map fun found => ((found.1 : Int), found.2) := by
    rw [unsignedWord]
    cases frame.word? width bytes <;> rfl
  rw [funext same]
  exact whole

theorem signedWord_selfContained {width : Nat} (positive : 0 < width) :
    SelfContained (frame.signedWord width) := by
  have whole := (frame.word_selfContained positive).map (signExtend width)
  simp only [Option.map_map] at whole
  exact whole

/-- A number is read from bytes of its own in every format and for every address size. -/
theorem number_selfContained (format : Format) : SelfContained (frame.number format) := by
  cases format with
  | address =>
    unfold number
    split
    next supported =>
      have positive : 0 < frame.addressSize.toNat := by
        simp only [List.mem_cons, List.not_mem_nil, or_false] at supported
        rcases supported with size | size | size | size <;> rw [size] <;> decide
      exact frame.unsignedWord_selfContained positive
    next => exact ⟨nofun, nofun⟩
  | unsignedLeb => exact (unsigned_selfContained 0).map fun n => (n : Int)
  | signedLeb => exact signed_selfContained 0
  | unsigned2 | unsigned4 | unsigned8 => exact frame.unsignedWord_selfContained (by decide)
  | signed2 | signed4 | signed8 => exact frame.signedWord_selfContained (by decide)

end Frame

/-- The same place in a table with more bytes behind it. -/
def Cursor.extend (extra : List UInt8) (cursor : Cursor) : Cursor := ⟨cursor.position, cursor.rest ++ extra⟩

namespace Frame
variable {frame : Frame} {encoding : Encoding} {cursor behind : Cursor}

theorem pointer_takes {value : UInt64} (read : frame.pointer encoding cursor = some (value, behind)) :
    behind.rest.length < cursor.rest.length := by
  obtain ⟨⟨n, length⟩, number, same⟩ := Option.map_eq_some_iff.mp read
  cases same
  have inside := (frame.number_selfContained encoding.format).takes number
  rw [Cursor.skip, List.length_drop]
  omega

theorem pointer_extend {value : UInt64} (extra : List UInt8)
    (read : frame.pointer encoding cursor = some (value, behind)) :
    frame.pointer encoding (cursor.extend extra) = some (value, behind.extend extra) := by
  obtain ⟨⟨n, length⟩, number, same⟩ := Option.map_eq_some_iff.mp read
  cases same
  have contained := frame.number_selfContained encoding.format
  have inside := (contained.takes number).2
  simp only [pointer, Cursor.extend, Cursor.skip, contained.stable extra number, Option.map_some,
    List.drop_append_of_le_length inside]

theorem entry_eq_some {start : UInt64} : frame.entry encoding cursor = some (start, behind) ↔
    ∃ middle description, frame.pointer encoding cursor = some (start, middle) ∧
      frame.pointer encoding middle = some (description, behind) := by
  simp only [entry, bind, Option.bind_eq_some_iff, pure, Option.some.injEq, Prod.mk.injEq, Prod.exists]
  constructor
  · rintro ⟨start, middle, first, description, behind, second, rfl, rfl⟩
    exact ⟨middle, description, first, second⟩
  · rintro ⟨middle, description, first, second⟩
    exact ⟨_, middle, first, description, _, second, rfl, rfl⟩

/-- The starts of the entries at a cursor: of `n` of them, or of those before the first that cannot
be read. -/
def startsAt (frame : Frame) (encoding : Encoding) : Nat → Cursor → List UInt64
  | 0, _ => []
  | n + 1, cursor =>
    match frame.entry encoding cursor with
    | none => []
    | some (start, cursor) => start :: frame.startsAt encoding n cursor

theorem entries_eq (n : Nat) (cursor : Cursor) (before : Array UInt64) :
    frame.entries encoding n cursor before =
      (before ++ (frame.startsAt encoding n cursor), decide ((frame.startsAt encoding n cursor).length = n)) := by
  induction n generalizing cursor before with
  | zero => simp [entries, startsAt]
  | succ n ih =>
    cases read : frame.entry encoding cursor with
    | none => simp [entries, startsAt, read]
    | some found => simp [entries, startsAt, read, ih]

theorem length_startsAt_le (frame : Frame) (encoding : Encoding) (n : Nat) (cursor : Cursor) :
    (frame.startsAt encoding n cursor).length ≤ n := by
  induction n generalizing cursor with
  | zero => exact Nat.le_refl 0
  | succ n ih =>
    cases read : frame.entry encoding cursor with
    | none => simp [startsAt, read]
    | some found => simpa [startsAt, read] using ih found.2

/-- The bytes of a table bound the entries in it, however many it declares. -/
theorem two_length_startsAt_le (frame : Frame) (encoding : Encoding) (n : Nat) (cursor : Cursor) :
    2 * (frame.startsAt encoding n cursor).length ≤ cursor.rest.length := by
  induction n generalizing cursor with
  | zero => exact Nat.zero_le _
  | succ n ih =>
    cases read : frame.entry encoding cursor with
    | none => simp [startsAt, read]
    | some found =>
      obtain ⟨start, behind⟩ := found
      obtain ⟨middle, description, first, second⟩ := entry_eq_some.mp read
      have shorter := pointer_takes first
      have shortest := pointer_takes second
      have others := ih behind
      simp only [startsAt, read, List.length_cons]
      omega

theorem startsAt_take {few many : Nat} (fewer : few ≤ many) (cursor : Cursor) :
    frame.startsAt encoding few cursor = (frame.startsAt encoding many cursor).take few := by
  induction few generalizing many cursor with
  | zero => rfl
  | succ few ih =>
    obtain _ | many := many
    · omega
    cases read : frame.entry encoding cursor with
    | none => simp [startsAt, read]
    | some found => simp [startsAt, read, ih (Nat.le_of_succ_le_succ fewer)]

theorem entry_extend {start : UInt64} (extra : List UInt8)
    (read : frame.entry encoding cursor = some (start, behind)) :
    frame.entry encoding (cursor.extend extra) = some (start, behind.extend extra) := by
  obtain ⟨middle, description, first, second⟩ := entry_eq_some.mp read
  exact entry_eq_some.mpr ⟨_, description, pointer_extend extra first, pointer_extend extra second⟩

/-- More bytes can only add entries behind those that were read. -/
theorem startsAt_prefix_extend (frame : Frame) (encoding : Encoding) (extra : List UInt8) (n : Nat) (cursor : Cursor) :
    frame.startsAt encoding n cursor <+: frame.startsAt encoding n (cursor.extend extra) := by
  induction n generalizing cursor with
  | zero => exact List.prefix_refl []
  | succ n ih =>
    cases read : frame.entry encoding cursor with
    | none => simp [startsAt, read]
    | some found =>
      obtain ⟨start, behind⟩ := found
      simp only [startsAt, read, entry_extend extra read]
      exact List.cons_prefix_cons.mpr ⟨rfl, ih behind⟩

theorem startsAt_extend (extra : List UInt8) {n : Nat} (full : (frame.startsAt encoding n cursor).length = n) :
    frame.startsAt encoding n (cursor.extend extra) = frame.startsAt encoding n cursor := by
  have grown := frame.startsAt_prefix_extend encoding extra n cursor
  have enough := frame.length_startsAt_le encoding n (cursor.extend extra)
  exact (grown.eq_of_length_le (Nat.le_trans enough (Nat.le_of_eq full.symm))).symm

theorem table_eq (frame : Frame) (encoding : Encoding) (declared limit : Nat) (cursor : Cursor) :
    frame.table encoding declared limit cursor =
      { starts := frame.startsAt encoding (min declared limit) cursor
        fault :=
          if (frame.startsAt encoding (min declared limit) cursor).length < min declared limit then
            some (.truncated (frame.startsAt encoding (min declared limit) cursor).length)
          else if limit < declared then some (.entryLimit declared limit)
          else none } := by
  have bounded := frame.length_startsAt_le encoding (min declared limit) cursor
  have listed : ((#[] : Array UInt64) ++ frame.startsAt encoding (min declared limit) cursor).toList =
      frame.startsAt encoding (min declared limit) cursor := by
    rw [Array.toList_appendList, List.nil_append]
  have size : ((#[] : Array UInt64) ++ frame.startsAt encoding (min declared limit) cursor).size =
      (frame.startsAt encoding (min declared limit) cursor).length := by
    rw [← Array.length_toList, listed]
  simp only [table, entries_eq, listed, size, Bool.not_eq_true', decide_eq_false_iff_not]
  by_cases full : (frame.startsAt encoding (min declared limit) cursor).length = min declared limit
  · rw [if_neg (not_not_intro full), if_neg (Nat.not_lt_of_le (Nat.le_of_eq full.symm))]
  · rw [if_pos full, if_pos (Nat.lt_of_le_of_ne bounded full)]

end Frame

/-- What the bytes before the entries come to. -/
inductive Front
  | faulty (fault : Fault)
  | tableless
  | table (encoding : Encoding) (declared : UInt64) (cursor : Cursor)
deriving DecidableEq, Repr

namespace Frame

def front (frame : Frame) (data : List UInt8) : Front :=
  match headerEncodings data with
  | .error fault => .faulty fault
  | .ok (encodings, cursor) =>
    match frame.skip cursor encodings.framePointer with
    | none => .faulty (.truncated 0)
    | some cursor =>
      match encodings.count, encodings.table with
      | some count, some table =>
        match frame.pointer count cursor with
        | none => .faulty (.truncated 0)
        | some (declared, cursor) => .table table declared cursor
      | _, _ => .tableless

/-- What is read behind a front. -/
def behindFront (frame : Frame) (limit : Nat) : Front → StartTable
  | .faulty fault => { fault := some fault }
  | .tableless => {}
  | .table encoding declared cursor => frame.table encoding declared.toNat limit cursor

end Frame

theorem frameHeaderStarts_eq (frame : Frame) (data : Bytes) (limit : Nat) :
    frameHeaderStarts frame data limit = frame.behindFront limit (frame.front data.toList) := by
  unfold frameHeaderStarts Frame.front
  cases headerEncodings data.toList with
  | error fault => rfl
  | ok opened =>
    obtain ⟨⟨framePointer, count, table⟩, cursor⟩ := opened
    dsimp only
    cases frame.skip cursor framePointer with
    | none => rfl
    | some behind =>
      cases count with
      | none => rfl
      | some count =>
        cases table with
        | none => rfl
        | some table =>
          dsimp only
          cases frame.pointer count behind <;> rfl

/-- A fault within the entries has nothing to do with their encoding. -/
theorem Frame.table_fault {frame : Frame} {encoding : Encoding} {declared limit : Nat} {cursor : Cursor}
    {fault : Fault} (told : (frame.table encoding declared limit cursor).fault = some fault) :
    fault.isEncoding = false := by
  rw [table_eq] at told
  dsimp only at told
  split at told
  next =>
    cases told
    rfl
  next =>
    obtain ⟨_, same⟩ := Option.ite_none_right_eq_some.mp told
    cases same
    rfl

theorem frameHeaderStarts_refused {frame : Frame} {data : Bytes} {limit : Nat} {fault : Fault}
    (told : (frameHeaderStarts frame data limit).fault = some fault) (encoding : fault.isEncoding = true) :
    (frameHeaderStarts frame data limit).starts = [] := by
  rw [frameHeaderStarts_eq] at told ⊢
  cases front : frame.front data.toList with
  | faulty => rfl
  | tableless => rfl
  | table =>
    rw [front] at told
    cases encoding.symm.trans (Frame.table_fault told)

end IsaCensus.Unwind
