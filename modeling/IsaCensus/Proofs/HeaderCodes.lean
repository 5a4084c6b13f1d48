import IsaCensus.Unwind.Table

/-! The codes at the start of a frame header. A header that is not refused for its version is
refused for the first of its codes that is not understood, and otherwise each code stands for the
encoding of its field or leaves the field out. -/

namespace IsaCensus.Unwind

theorem Encoding.ofCode_eq_some_iff {code : UInt8} {encoding : Encoding} :
    ofCode? code = some encoding ↔ encoding.code = code := by
  have every : ∀ n : Fin 256, ∀ encoding ∈ ofCode? (UInt8.ofFin n), encoding.code = UInt8.ofFin n := by
    decide +kernel
  refine ⟨fun found => every code.toFin encoding found, ?_⟩
  rintro rfl
  exact ofCode_code encoding

theorem Encoding.code_ne (encoding : Encoding) : encoding.code ≠ 0xff := by
  obtain ⟨format, application⟩ := encoding
  cases format <;> cases application <;> decide

theorem Application.ofCode_eq_none_iff {code : UInt8} : ofCode? code = none ↔ code ∉ [0x00, 0x10, 0x30] := by
  unfold ofCode?
  split <;> simp_all

theorem Format.ofCode_eq_none_iff {code : UInt8} :
    ofCode? code = none ↔ code ∉ [0x00, 0x01, 0x02, 0x03, 0x04, 0x09, 0x0a, 0x0b, 0x0c] := by
  unfold ofCode?
  split <;> simp_all

theorem Encoding.ofCode_eq_none_iff {code : UInt8} : ofCode? code = none ↔
    code &&& 0x80 ≠ 0 ∨ code &&& 0x70 ∉ [0x00, 0x10, 0x30] ∨
      code &&& 0x0f ∉ [0x00, 0x01, 0x02, 0x03, 0x04, 0x09, 0x0a, 0x0b, 0x0c] := by
  rw [← Application.ofCode_eq_none_iff, ← Format.ofCode_eq_none_iff, ofCode?]
  by_cases direct : code &&& 0x80 = 0
  · have allowed : (guard (code &&& 0x80 = 0) : Option Unit) = some () := if_pos direct
    rw [allowed]
    cases Application.ofCode? (code &&& 0x70) with
    | none => simp
    | some application => cases Format.ofCode? (code &&& 0x0f) <;> simp [direct]
  · have refused : (guard (code &&& 0x80 = 0) : Option Unit) = none := if_neg direct
    rw [refused]
    simp [direct]

/-- A code that is not understood. It does not leave its field out, and it is indirect, or relative
to something unknown, or in an unknown format. -/
def Unsupported (code : UInt8) : Prop :=
  code ≠ 0xff ∧ (code &&& 0x80 ≠ 0 ∨ code &&& 0x70 ∉ [0x00, 0x10, 0x30] ∨
    code &&& 0x0f ∉ [0x00, 0x01, 0x02, 0x03, 0x04, 0x09, 0x0a, 0x0b, 0x0c])

instance : DecidablePred Unsupported := fun _ => inferInstanceAs (Decidable (_ ∧ _))

/-- The first field of a header whose code is not understood. -/
def unsupported? (framePointer count table : UInt8) : Option (HeaderField × UInt8) :=
  [(.framePointer, framePointer), (.count, count), (.table, table)].find? fun field => Unsupported field.2

/-- The encoding that a code stands for, unless it leaves its field out. -/
def announced (code : UInt8) : Option Encoding := if code = 0xff then none else Encoding.ofCode? code

theorem announced_eq_some_iff {code : UInt8} {encoding : Encoding} :
    announced code = some encoding ↔ encoding.code = code := by
  rw [announced]
  split
  next omitted => exact ⟨nofun, fun same => absurd (same.trans omitted) encoding.code_ne⟩
  next => exact Encoding.ofCode_eq_some_iff

theorem announced_eq_none {code : UInt8} (understood : ¬Unsupported code) (omitted : announced code = none) :
    code = 0xff := by
  refine Decidable.byContradiction fun present => understood ⟨present, ?_⟩
  rwa [announced, if_neg present, Encoding.ofCode_eq_none_iff] at omitted

theorem unsupported_eq_none {framePointer count table : UInt8}
    (understood : unsupported? framePointer count table = none) :
    ¬Unsupported framePointer ∧ ¬Unsupported count ∧ ¬Unsupported table := by
  simpa [unsupported?] using understood

theorem fieldEncoding_eq (field : HeaderField) (code : UInt8) : fieldEncoding field code =
    if Unsupported code then .error (.unsupportedEncoding field code) else .ok (announced code) := by
  rw [fieldEncoding, announced]
  by_cases omitted : code = 0xff
  · rw [if_pos omitted, if_pos omitted, if_neg fun unsupported => unsupported.1 omitted]
  · rw [if_neg omitted, if_neg omitted]
    cases found : Encoding.ofCode? code with
    | none => exact (if_pos ⟨omitted, Encoding.ofCode_eq_none_iff.mp found⟩).symm
    | some encoding =>
      refine (if_neg fun unsupported => ?_).symm
      rw [Encoding.ofCode_eq_none_iff.mpr unsupported.2] at found
      cases found

theorem headerEncodings_eq (version framePointer count table : UInt8) (rest : List UInt8) :
    headerEncodings (version :: framePointer :: count :: table :: rest) =
      if version ≠ 1 then .error (.unsupportedVersion version)
      else match unsupported? framePointer count table with
        | some (field, code) => .error (.unsupportedEncoding field code)
        | none => .ok (⟨announced framePointer, announced count, announced table⟩, ⟨4, rest⟩) := by
  simp only [headerEncodings, fieldEncoding_eq, unsupported?, List.find?_cons, List.find?_nil]
  by_cases known : version = 1
  · by_cases pointed : Unsupported framePointer
    · simp [known, pointed, bind, Except.bind]
    by_cases counted : Unsupported count
    · simp [known, pointed, counted, bind, Except.bind]
    by_cases tabled : Unsupported table <;> simp [known, pointed, counted, tabled, bind, Except.bind, pure, Except.pure]
  · simp [known, bind, Except.bind, throw, throwThe, MonadExceptOf.throw]

end IsaCensus.Unwind
