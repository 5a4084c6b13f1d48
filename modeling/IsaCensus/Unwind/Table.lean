import IsaCensus.Unwind.Pointer
import IsaCensus.Text.Hex

/-! Function starts from the index tables of stack unwinders: the search table of a frame
header, and packed runtime-function records. What was read before a fault is kept. -/

namespace IsaCensus.Unwind

inductive HeaderField
  | framePointer
  | count
  | table
deriving DecidableEq, Repr

def HeaderField.name : HeaderField → String
  | .framePointer => "eh_frame_ptr"
  | .count => "fde_count"
  | .table => "table"

inductive Fault
  | unsupportedVersion (version : UInt8)
  | unsupportedEncoding (field : HeaderField) (encoding : UInt8)
  | truncated (decoded : Nat)
  | entryLimit (declared limit : Nat)
deriving DecidableEq, Repr

namespace Fault

/-- The table was refused as a whole. -/
def isEncoding : Fault → Bool
  | .unsupportedVersion _ | .unsupportedEncoding _ _ => true
  | _ => false

def message : Fault → String
  | .unsupportedVersion version => "unsupported .eh_frame_hdr version " ++ toString version.toNat
  | .unsupportedEncoding field encoding =>
    "unsupported pointer encoding " ++ Text.hexByte encoding ++ " for " ++ field.name
  | .truncated decoded => "table truncated after " ++ toString decoded ++ " entries"
  | .entryLimit declared limit =>
    "table declares " ++ toString declared ++ " entries, only the first " ++ toString limit ++ " were read"

end Fault

structure StartTable where
  starts : List UInt64 := []
  fault : Option Fault := none
deriving DecidableEq, Repr

/-- The encoding of a field, or none when the field is left out. -/
def fieldEncoding (field : HeaderField) (code : UInt8) : Except Fault (Option Encoding) :=
  if code = 0xff then .ok none
  else match Encoding.ofCode? code with
    | some encoding => .ok (some encoding)
    | none => .error (.unsupportedEncoding field code)

structure HeaderEncodings where
  framePointer : Option Encoding
  count : Option Encoding
  table : Option Encoding
deriving DecidableEq, Repr

/-- The fixed start of a header: a version and three encodings. -/
def headerEncodings : List UInt8 → Except Fault (HeaderEncodings × Cursor)
  | version :: framePointer :: count :: table :: rest => do
    if version ≠ 1 then throw (.unsupportedVersion version)
    let framePointer ← fieldEncoding .framePointer framePointer
    let count ← fieldEncoding .count count
    let table ← fieldEncoding .table table
    return ({ framePointer, count, table }, { position := 4, rest })
  | _ => throw (.truncated 0)

/-- One entry: the start of a function and the address of its description. -/
def Frame.entry (frame : Frame) (encoding : Encoding) (cursor : Cursor) : Option (UInt64 × Cursor) := do
  let (start, cursor) ← frame.pointer encoding cursor
  let (_, cursor) ← frame.pointer encoding cursor
  return (start, cursor)

/-- Adds the starts of up to `n` entries to those read before, and tells whether there were
that many. -/
def Frame.entries (frame : Frame) (encoding : Encoding) : Nat → Cursor → Array UInt64 → Array UInt64 × Bool
  | 0, _, starts => (starts, true)
  | n + 1, cursor, starts =>
    match frame.entry encoding cursor with
    | none => (starts, false)
    | some (start, cursor) => frame.entries encoding n cursor (starts.push start)

/-- The entries of a table that declares a number of them, up to a limit. -/
def Frame.table (frame : Frame) (encoding : Encoding) (declared limit : Nat) (cursor : Cursor) : StartTable :=
  let (starts, full) := frame.entries encoding (min declared limit) cursor #[]
  { starts := starts.toList
    fault :=
      if !full then some (.truncated starts.size)
      else if limit < declared then some (.entryLimit declared limit)
      else none }

def Frame.skip (frame : Frame) (cursor : Cursor) : Option Encoding → Option Cursor
  | none => some cursor
  | some encoding => (frame.pointer encoding cursor).map (·.2)

def frameHeaderStarts (frame : Frame) (data : Bytes) (limit : Nat) : StartTable :=
  match headerEncodings data.toList with
  | .error fault => { fault := some fault }
  | .ok (encodings, cursor) =>
    match frame.skip cursor encodings.framePointer with
    | none => { fault := some (.truncated 0) }
    | some cursor =>
      match encodings.count, encodings.table with
      | some count, some table =>
        match frame.pointer count cursor with
        | none => { fault := some (.truncated 0) }
        | some (declared, cursor) => frame.table table declared.toNat limit cursor
      | _, _ => {}

/-- The size of a runtime-function record. Its first word is where the function begins. -/
def recordSize : Nat := 12

/-- The function starts in packed records. A record that is cut off is not one. -/
def runtimeFunctionStarts (data : Bytes) (limit : Nat) : StartTable :=
  let declared := data.size / recordSize
  { starts := ((data.records recordSize).take limit).map fun record =>
      (littleValue (record.toList.take 4)).toUInt64
    fault := if limit < declared then some (.entryLimit declared limit) else none }

end IsaCensus.Unwind
