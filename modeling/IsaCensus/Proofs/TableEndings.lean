import Mathlib.Logic.ExistsUnique
import IsaCensus.Proofs.HeaderCodes
import IsaCensus.Proofs.TableReading

/-! How the reading of a frame header can end. It is refused for its version or an encoding, or cut
off before or within its entries, or it holds more entries than are wanted, or it is read to its
end. Which of the four it is can be told from the bytes of the header, and the number of starts
goes with it. -/

namespace IsaCensus.Unwind

/-- A header of at least four bytes that is refused, for its version or for the first of its codes
that is not understood. -/
inductive Refuses (data : Bytes) : Fault → Prop
  | version {version framePointer count table rest}
      (bytes : data.toList = version :: framePointer :: count :: table :: rest) (other : version ≠ 1) :
      Refuses data (.unsupportedVersion version)
  | encoding {framePointer count table rest field code}
      (bytes : data.toList = 1 :: framePointer :: count :: table :: rest)
      (first : unsupported? framePointer count table = some (field, code)) :
      Refuses data (.unsupportedEncoding field code)

/-- A header of version 1 whose codes are all understood. -/
structure Opens (data : Bytes) (framePointer count table : UInt8) (rest : List UInt8) : Prop where
  bytes : data.toList = 1 :: framePointer :: count :: table :: rest
  understood : unsupported? framePointer count table = none

namespace Frame

/-- The field that a code announces can be read at a place, and ends where the next one stands. -/
def Holds (frame : Frame) (code : UInt8) (place : Cursor) (value : UInt64) (next : Cursor) : Prop :=
  ∃ encoding : Encoding, encoding.code = code ∧ frame.pointer encoding place = some (value, next)

/-- The field that a code announces cannot be read at a place. -/
def Lacks (frame : Frame) (code : UInt8) (place : Cursor) : Prop :=
  ∃ encoding : Encoding, encoding.code = code ∧ frame.pointer encoding place = none

/-- Where the count of the entries stands: behind the frame pointer, which may be left out. -/
inductive CountAt (frame : Frame) (framePointer : UInt8) (rest : List UInt8) : Cursor → Prop
  | first (omitted : framePointer = 0xff) : CountAt frame framePointer rest ⟨4, rest⟩
  | second {value place} (held : frame.Holds framePointer ⟨4, rest⟩ value place) :
      CountAt frame framePointer rest place

/-- A header ends before its entries: within its first four bytes, its frame pointer or its count. -/
inductive EndsEarly (frame : Frame) (data : Bytes) : Prop
  | opening (short : data.size < 4)
  | framePointer {framePointer count table rest} (opens : Opens data framePointer count table rest)
      (lacking : frame.Lacks framePointer ⟨4, rest⟩)
  | count {framePointer count table rest place} (opens : Opens data framePointer count table rest)
      (placed : frame.CountAt framePointer rest place) (present : table ≠ 0xff)
      (lacking : frame.Lacks count place)

/-- A header leaves out its count or its table. -/
inductive Tableless (frame : Frame) (data : Bytes) : Prop
  | intro {framePointer count table rest place} (opens : Opens data framePointer count table rest)
      (placed : frame.CountAt framePointer rest place) (omitted : count = 0xff ∨ table = 0xff)

/-- A header can be read up to its entries. It gives the code of their fields, says that there are
so many of them, and the first one stands there. -/
inductive Declares (frame : Frame) (data : Bytes) : UInt8 → Nat → Cursor → Prop
  | intro {framePointer count table rest place declared first} (opens : Opens data framePointer count table rest)
      (placed : frame.CountAt framePointer rest place) (present : table ≠ 0xff)
      (held : frame.Holds count place declared first) : Declares frame data table declared.toNat first

/-- Entries one behind the other, by their starts, from a place to another. -/
inductive Row (frame : Frame) (code : UInt8) : Cursor → List UInt64 → Cursor → Prop
  | nil {place} : Row frame code place [] place
  | cons {place start middle description next starts last} (started : frame.Holds code place start middle)
      (described : frame.Holds code middle description next) (later : Row frame code next starts last) :
      Row frame code place (start :: starts) last

/-- One half of the entry at a place cannot be read. -/
inductive EndsWithin (frame : Frame) (code : UInt8) (place : Cursor) : Prop
  | start (lacking : frame.Lacks code place)
  | description {start middle} (held : frame.Holds code place start middle) (lacking : frame.Lacks code middle)

theorem endsWithin_of_entry {frame : Frame} {encoding : Encoding} {place : Cursor}
    (unread : frame.entry encoding place = none) : frame.EndsWithin encoding.code place := by
  cases first : frame.pointer encoding place with
  | none => exact .start ⟨encoding, rfl, first⟩
  | some start =>
    cases second : frame.pointer encoding start.2 with
    | none => exact .description ⟨encoding, rfl, first⟩ ⟨encoding, rfl, second⟩
    | some description =>
      rw [entry_eq_some.mpr ⟨_, _, first, second⟩] at unread
      cases unread

theorem row_startsAt (frame : Frame) (encoding : Encoding) (n : Nat) (place : Cursor) :
    ∃ last, frame.Row encoding.code place (frame.startsAt encoding n place) last ∧
      ((frame.startsAt encoding n place).length < n → frame.EndsWithin encoding.code last) := by
  induction n generalizing place with
  | zero => exact ⟨place, .nil, fun fewer => absurd fewer (Nat.not_lt_zero _)⟩
  | succ n ih =>
    cases read : frame.entry encoding place with
    | none =>
      simp only [startsAt, read]
      exact ⟨place, .nil, fun _ => endsWithin_of_entry read⟩
    | some entry =>
      obtain ⟨middle, description, first, second⟩ := entry_eq_some.mp read
      obtain ⟨last, row, ends⟩ := ih entry.2
      simp only [startsAt, read]
      exact ⟨last, .cons ⟨encoding, rfl, first⟩ ⟨encoding, rfl, second⟩ row,
        fun fewer => ends (Nat.lt_of_succ_lt_succ fewer)⟩

/-- What the bytes of a header are like when its front comes to something. -/
def Says (frame : Frame) (data : Bytes) : Front → Prop
  | .faulty fault => Refuses data fault ∨ fault = .truncated 0 ∧ frame.EndsEarly data
  | .tableless => frame.Tableless data
  | .table encoding declared cursor =>
    frame.Declares data encoding.code declared.toNat cursor ∧ cursor.rest.length + 5 ≤ data.size

theorem CountAt.length_le {frame : Frame} {framePointer : UInt8} {rest : List UInt8} {place : Cursor}
    (placed : frame.CountAt framePointer rest place) : place.rest.length ≤ rest.length := by
  cases placed with
  | first => exact Nat.le_refl _
  | second held =>
    obtain ⟨encoding, _, read⟩ := held
    exact Nat.le_of_lt (pointer_takes read)

/-- Passing over the frame pointer leads to the count, unless the frame pointer cannot be read. -/
theorem skip_cases (frame : Frame) {framePointer : UInt8} (understood : ¬Unsupported framePointer) (rest : List UInt8) :
    (frame.skip ⟨4, rest⟩ (announced framePointer) = none ∧ frame.Lacks framePointer ⟨4, rest⟩) ∨
    ∃ place, frame.skip ⟨4, rest⟩ (announced framePointer) = some place ∧ frame.CountAt framePointer rest place := by
  cases found : announced framePointer with
  | none => exact .inr ⟨_, rfl, .first (announced_eq_none understood found)⟩
  | some encoding =>
    have code := announced_eq_some_iff.mp found
    cases read : frame.pointer encoding ⟨4, rest⟩ with
    | none => exact .inl ⟨by rw [skip, read]; rfl, encoding, code, read⟩
    | some field => exact .inr ⟨field.2, by rw [skip, read]; rfl, .second ⟨encoding, code, read⟩⟩

theorem front_opened (frame : Frame) {data : Bytes} {framePointer count table : UInt8} {rest : List UInt8}
    (opens : Opens data framePointer count table rest) : frame.Says data (frame.front data.toList) := by
  obtain ⟨pointed, counted, tabled⟩ := unsupported_eq_none opens.understood
  have size : data.size = rest.length + 4 := by rw [← Array.length_toList, opens.bytes]; rfl
  simp only [opens.bytes, front, headerEncodings_eq, opens.understood, ne_eq, not_true_eq_false, if_false]
  rcases frame.skip_cases pointed rest with ⟨unread, lacking⟩ | ⟨place, skipped, placed⟩
  · rw [unread]
    exact .inr ⟨rfl, .framePointer opens lacking⟩
  rw [skipped]
  cases first : announced count with
  | none => exact .intro opens placed (.inl (announced_eq_none counted first))
  | some encoding =>
    cases second : announced table with
    | none => exact .intro opens placed (.inr (announced_eq_none tabled second))
    | some entry =>
      obtain rfl : entry.code = table := announced_eq_some_iff.mp second
      have present := entry.code_ne
      have code := announced_eq_some_iff.mp first
      cases read : frame.pointer encoding place with
      | none =>
        simp only [read]
        exact .inr ⟨rfl, .count opens placed present ⟨encoding, code, read⟩⟩
      | some field =>
        have shorter := pointer_takes read
        have within := placed.length_le
        simp only [read]
        exact ⟨.intro opens placed present ⟨encoding, code, read⟩, by omega⟩

theorem says_front (frame : Frame) (data : Bytes) : frame.Says data (frame.front data.toList) := by
  match bytes : data.toList with
  | version :: framePointer :: count :: table :: rest =>
    by_cases known : version = 1
    · subst known
      cases found : unsupported? framePointer count table with
      | some refused =>
        simp only [front, headerEncodings_eq, found]
        exact .inl (.encoding bytes found)
      | none =>
        rw [← bytes]
        exact frame.front_opened ⟨bytes, found⟩
    · simp only [front, headerEncodings_eq, if_pos known]
      exact .inl (.version bytes known)
  | [] | [_] | [_, _] | [_, _, _] =>
    have short : data.size < 4 := by
      rw [← Array.length_toList, bytes]
      simp
    exact .inr ⟨rfl, .opening short⟩

end Frame

theorem front_refused {data : Bytes} {fault : Fault} (refuses : Refuses data fault) (frame : Frame) :
    frame.front data.toList = .faulty fault := by
  cases refuses with
  | version bytes other => rw [bytes, Frame.front, headerEncodings_eq, if_pos other]
  | encoding bytes first => rw [bytes, Frame.front, headerEncodings_eq, if_neg (not_not_intro rfl), first]

theorem Refuses.isEncoding {data : Bytes} {fault : Fault} (refuses : Refuses data fault) :
    fault.isEncoding = true := by
  cases refuses <;> rfl

/-- How the reading of a header ends. -/
inductive Ending
  | refused
  | truncated
  | limited
  | complete
deriving DecidableEq, Repr

/-- What is read of a header when its reading ends so. The starts are those of the entries from the
first one on. -/
def Ending.Describes (frame : Frame) (data : Bytes) (limit : Nat) (table : StartTable) : Ending → Prop
  | .refused => ∃ fault, Refuses data fault ∧ table = { fault := some fault }
  | .truncated => table.fault = some (.truncated table.starts.length) ∧
      (frame.EndsEarly data ∧ table.starts = [] ∨
        ∃ code declared first last, frame.Declares data code declared first ∧
          frame.Row code first table.starts last ∧ frame.EndsWithin code last ∧
          table.starts.length < min declared limit)
  | .limited => ∃ code declared first last, frame.Declares data code declared first ∧
      frame.Row code first table.starts last ∧ table.fault = some (.entryLimit declared limit) ∧
      table.starts.length = limit ∧ limit < declared
  | .complete => table.fault = none ∧
      ((∃ code declared first last, frame.Declares data code declared first ∧
          frame.Row code first table.starts last ∧ table.starts.length = declared ∧ declared ≤ limit) ∨
        frame.Tableless data ∧ table.starts = [])

/-- The fault alone tells how the reading ended. -/
def Fault.ending : Option Fault → Ending
  | some (.unsupportedVersion _) | some (.unsupportedEncoding _ _) => .refused
  | some (.truncated _) => .truncated
  | some (.entryLimit _ _) => .limited
  | none => .complete

theorem Ending.eq_of_describes {frame : Frame} {data : Bytes} {limit : Nat} {table : StartTable} {ending : Ending}
    (described : ending.Describes frame data limit table) : ending = Fault.ending table.fault := by
  cases ending with
  | refused =>
    obtain ⟨fault, refuses, rfl⟩ := described
    cases refuses <;> rfl
  | truncated => rw [described.1]; rfl
  | limited =>
    obtain ⟨_, declared, _, _, _, _, fault, _⟩ := described
    rw [fault]
    rfl
  | complete => rw [described.1]; rfl

theorem ending_describes (frame : Frame) (data : Bytes) (limit : Nat) :
    ∃ ending : Ending, ending.Describes frame data limit (frameHeaderStarts frame data limit) := by
  have outcome := frame.says_front data
  rw [frameHeaderStarts_eq]
  cases found : frame.front data.toList with
  | faulty fault =>
    rw [found] at outcome
    rcases outcome with refuses | ⟨rfl, early⟩
    · exact ⟨.refused, fault, refuses, rfl⟩
    · exact ⟨.truncated, rfl, .inl ⟨early, rfl⟩⟩
  | tableless =>
    rw [found] at outcome
    exact ⟨.complete, rfl, .inr ⟨outcome, rfl⟩⟩
  | table encoding declared cursor =>
    rw [found] at outcome
    obtain ⟨declares, _⟩ := outcome
    obtain ⟨last, row, ends⟩ := frame.row_startsAt encoding (min declared.toNat limit) cursor
    have bounded := frame.length_startsAt_le encoding (min declared.toNat limit) cursor
    rw [Frame.behindFront, Frame.table_eq]
    split
    next short => exact ⟨.truncated, rfl, .inr ⟨_, _, _, last, declares, row, ends short, short⟩⟩
    next full =>
      split
      next exceeds =>
        refine ⟨.limited, _, _, _, last, declares, row, rfl, ?_, exceeds⟩
        dsimp only
        omega
      next within =>
        refine ⟨.complete, rfl, .inl ⟨_, _, _, last, declares, row, ?_, Nat.le_of_not_lt within⟩⟩
        dsimp only
        omega

theorem length_frameHeaderStarts (frame : Frame) (data : Bytes) (limit : Nat) :
    (frameHeaderStarts frame data limit).starts.length ≤ limit ∧
      2 * (frameHeaderStarts frame data limit).starts.length ≤ data.size - 5 := by
  have outcome := frame.says_front data
  rw [frameHeaderStarts_eq]
  cases found : frame.front data.toList with
  | faulty fault => exact ⟨Nat.zero_le _, Nat.zero_le _⟩
  | tableless => exact ⟨Nat.zero_le _, Nat.zero_le _⟩
  | table encoding declared cursor =>
    rw [found] at outcome
    obtain ⟨_, room⟩ := outcome
    have bounded := frame.length_startsAt_le encoding (min declared.toNat limit) cursor
    have paid := frame.two_length_startsAt_le encoding (min declared.toNat limit) cursor
    simp only [Frame.behindFront, Frame.table_eq]
    omega

theorem Ending.refused_of_encoding {frame : Frame} {data : Bytes} {limit : Nat} {table : StartTable} {ending : Ending}
    (described : ending.Describes frame data limit table) {fault : Fault} (told : table.fault = some fault)
    (encoding : fault.isEncoding = true) : Refuses data fault := by
  cases ending with
  | refused =>
    obtain ⟨other, refuses, rfl⟩ := described
    cases told
    exact refuses
  | truncated =>
    rw [described.1] at told
    cases told
    cases encoding
  | limited =>
    obtain ⟨_, declared, _, _, _, _, limited, _⟩ := described
    rw [limited] at told
    cases told
    cases encoding
  | complete =>
    rw [described.1] at told
    cases told

/-- Every reading of a frame header ends in just one of four ways, which the bytes of the header
and the limit decide. A header is refused as a whole, and without starts, just if it has a version
or an encoding that is not understood. There are never more starts than are wanted, nor more than
the bytes behind the front of the header can hold. -/
theorem reading_ends_one_way (frame : Frame) (data : Bytes) (limit : Nat) :
    (∃! ending : Ending, ending.Describes frame data limit (frameHeaderStarts frame data limit)) ∧
    (∀ fault, Refuses data fault ↔
      (frameHeaderStarts frame data limit).fault = some fault ∧ fault.isEncoding = true) ∧
    (∀ fault, (frameHeaderStarts frame data limit).fault = some fault → fault.isEncoding = true →
      (frameHeaderStarts frame data limit).starts = []) ∧
    (frameHeaderStarts frame data limit).starts.length ≤ limit ∧
    2 * (frameHeaderStarts frame data limit).starts.length ≤ data.size - 5 := by
  obtain ⟨ending, described⟩ := ending_describes frame data limit
  refine ⟨⟨ending, described, ?_⟩, ?_, fun _ => frameHeaderStarts_refused, length_frameHeaderStarts frame data limit⟩
  · intro other alike
    rw [other.eq_of_describes alike, ending.eq_of_describes described]
  · intro fault
    constructor
    · intro refuses
      rw [frameHeaderStarts_eq, front_refused refuses]
      exact ⟨rfl, refuses.isEncoding⟩
    · rintro ⟨told, encoding⟩
      exact ending.refused_of_encoding described told encoding

/-- A header with an indirect frame pointer. -/
def indirectHeader : Bytes := #[1, 0x9b, 0x03, 0x3b, 0, 0, 0, 0]

/-- A header of two entries, whose fields have four bytes. -/
def rowHeader : Bytes :=
  #[1, 0xff, 0x03, 0x03, 2, 0, 0, 0, 0x10, 0, 0, 0, 0x80, 0, 0, 0, 0x20, 0, 0, 0, 0x90, 0, 0, 0]

def rowFrame : Frame := ⟨.little, 0, 8⟩

/-- One header is refused. The other is cut off within its second entry, or is read up to a limit of one
entry, or to its end. -/
theorem headers_end :
    (Refuses indirectHeader (.unsupportedEncoding .framePointer 0x9b) ∧
      (frameHeaderStarts rowFrame indirectHeader 5).fault = some (.unsupportedEncoding .framePointer 0x9b) ∧
      Fault.isEncoding (.unsupportedEncoding .framePointer 0x9b) = true ∧
      (frameHeaderStarts rowFrame indirectHeader 5).starts = []) ∧
    (frameHeaderStarts rowFrame (rowHeader.extract 0 20) 5 = ⟨[0x10], some (.truncated 1)⟩ ∧
      Ending.truncated.Describes rowFrame (rowHeader.extract 0 20) 5 ⟨[0x10], some (.truncated 1)⟩) ∧
    (frameHeaderStarts rowFrame rowHeader 1 = ⟨[0x10], some (.entryLimit 2 1)⟩ ∧
      Ending.limited.Describes rowFrame rowHeader 1 ⟨[0x10], some (.entryLimit 2 1)⟩) ∧
    (frameHeaderStarts rowFrame rowHeader 5 = ⟨[0x10, 0x20], none⟩ ∧
      Ending.complete.Describes rowFrame rowHeader 5 ⟨[0x10, 0x20], none⟩) := by
  have refuses : Refuses indirectHeader (.unsupportedEncoding .framePointer 0x9b) := .encoding rfl (by decide)
  obtain ⟨_, refused, startless, _⟩ := reading_ends_one_way rowFrame indirectHeader 5
  obtain ⟨told, encoding⟩ := (refused _).mp refuses
  have ends {data : Bytes} {limit : Nat} {table : StartTable} (read : frameHeaderStarts rowFrame data limit = table) :
      (Fault.ending table.fault).Describes rowFrame data limit table := by
    obtain ⟨ending, described, _⟩ := (reading_ends_one_way rowFrame data limit).1
    rw [read] at described
    exact ending.eq_of_describes described ▸ described
  have cut : frameHeaderStarts rowFrame (rowHeader.extract 0 20) 5 = ⟨[0x10], some (.truncated 1)⟩ := by decide
  have limited : frameHeaderStarts rowFrame rowHeader 1 = ⟨[0x10], some (.entryLimit 2 1)⟩ := by decide
  have complete : frameHeaderStarts rowFrame rowHeader 5 = ⟨[0x10, 0x20], none⟩ := by decide
  exact ⟨⟨refuses, told, encoding, startless _ told encoding⟩, ⟨cut, ends cut⟩, ⟨limited, ends limited⟩,
    ⟨complete, ends complete⟩⟩

end IsaCensus.Unwind
