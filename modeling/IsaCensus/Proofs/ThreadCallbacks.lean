import IsaCensus.Proofs.ImageHeaders
import IsaCensus.Proofs.PointerWords

/-! The callbacks of thread-local storage in a PE image. Four things have to be there in a row: headers
that name a directory, bytes of the directory in a section, an address in it, and the callbacks that
stand at this address. The walk along them looks at no word that does not lie inside the image. Where
it breaks off, the layout gets no array. -/

namespace IsaCensus.Pe

/-! The walk as a whole. -/

theorem Kind.pointerSize_pos (kind : Kind) : 0 < kind.pointerSize := by
  cases kind <;> decide

theorem Kind.capacity_le (kind : Kind) : capacity kind.pointerSize ≤ UInt64.size := by
  cases kind <;> decide

section Callbacks
variable {image : Bytes} {layout : Layout}

theorem callbacks_eq_some {address : UInt64} : callbacks? image layout = some address ↔
    ∃ start kind directory place remaining value, Names image start kind directory ∧
      layout.fileOffset? directory.toUInt64 = some (place, remaining) ∧
      WordAt image kind.pointerSize (place.toNat + kind.callbackField) value ∧ value ≠ 0 ∧
      relative layout.imageBase value.toUInt64 = address := by
  simp only [callbacks?, Option.bind_eq_bind, Option.bind_eq_some_iff, Option.guard_eq_some', Option.pure_def,
    Option.some_inj, word_eq_some_iff (Kind.pointerSize_pos _)]
  constructor
  · rintro ⟨⟨kind, directory⟩, named, ⟨place, remaining⟩, mapped, value, field, _, nonzero, same⟩
    obtain ⟨start, names⟩ := threadStorage_eq_some.mp named
    exact ⟨start, kind, directory, place, remaining, value, names, mapped, field, nonzero, same⟩
  · rintro ⟨start, kind, directory, place, remaining, value, names, mapped, field, nonzero, same⟩
    exact ⟨(kind, directory), threadStorage_eq_some.mpr ⟨start, names⟩, (place, remaining), mapped, value, field, (),
      nonzero, same⟩

/-- How the walk can break off: headers without a directory, a directory that no section has, or one that
is cut off or empty where it should have the address of the callbacks. -/
inductive Breaks (image : Bytes) (layout : Layout) : Prop
  | headers (unnamed : Unnamed image)
  | unmapped {start kind directory} (names : Names image start kind directory)
      (outside : ∀ range ∈ layout.sections, range.fileOffset.isSome = true →
        range.contains directory.toUInt64 = false)
  | cut {start kind directory place remaining} (names : Names image start kind directory)
      (mapped : layout.fileOffset? directory.toUInt64 = some (place, remaining))
      (cut : image.size < place.toNat + kind.callbackField + kind.pointerSize)
  | empty {start kind directory place remaining} (names : Names image start kind directory)
      (mapped : layout.fileOffset? directory.toUInt64 = some (place, remaining))
      (zero : WordAt image kind.pointerSize (place.toNat + kind.callbackField) 0)

end Callbacks

theorem callbacks_eq_none {source : Bytes} {start : Nat} {kind : Kind} {headers : Headers}
    (parsed : parse source start kind = .ok headers) {image : Bytes} :
    callbacks? image (layout headers image) = none ↔ Breaks image (layout headers image) := by
  constructor
  · intro nothing
    rcases unnamed_or_names image with unnamed | ⟨start, kind, directory, names⟩
    · exact .headers unnamed
    cases mapped : (layout headers image).fileOffset? directory.toUInt64 with
    | none => exact .unmapped names ((fileOffset_eq_none parsed).mp mapped)
    | some standing =>
      obtain ⟨place, remaining⟩ := standing
      rcases cut_or_word image kind.pointerSize (place.toNat + kind.callbackField) with cut | ⟨value, field⟩
      · exact .cut names mapped cut
      by_cases zero : value = 0
      · exact .empty names mapped (zero ▸ field)
      · cases (callbacks_eq_some.mpr ⟨start, kind, directory, place, remaining, value, names, mapped, field, zero,
          rfl⟩).symm.trans nothing
  · intro breaks
    refine Option.eq_none_iff_forall_ne_some.mpr fun address found => ?_
    obtain ⟨start, kind, directory, place, remaining, value, names, mapped, field, nonzero, _⟩ :=
      callbacks_eq_some.mp found
    cases breaks with
    | headers unnamed => exact unnamed.not_names names
    | unmapped other outside =>
      obtain ⟨rfl, rfl⟩ := other.unique names
      cases mapped.symm.trans ((fileOffset_eq_none parsed).mpr outside)
    | cut other also cut =>
      obtain ⟨rfl, rfl⟩ := other.unique names
      cases mapped.symm.trans also
      exact absurd field.inside (Nat.not_le_of_gt cut)
    | empty other also zero =>
      obtain ⟨rfl, rfl⟩ := other.unique names
      cases mapped.symm.trans also
      exact nonzero (field.unique zero)

/-! The chain that the walk follows to the callbacks, where nothing is missing. -/

/-- An image names a directory for thread-local storage, which stands at `place` of the file. The
directory has the address of an array, and there, at `first` of the file, stand the addresses of the
targets, with the image base added, before a zero. -/
structure Chain (headers : Headers) (image : Bytes) (directory : Directory) (place : Nat) (callbacks : UInt64)
    (first : Nat) (targets : List UInt64) : Prop where
  listed : headers.directories[9]? = some directory
  named : directory.address ≠ 0
  storage : ∃ rest, (layout headers image).Stands directory.address.toUInt64 place rest
  field : WordAt image headers.kind.pointerSize (place + headers.kind.callbackField)
    (headers.imageBase.toNat + callbacks.toNat)
  occupied : headers.imageBase.toNat + callbacks.toNat ≠ 0
  array : ∃ rest, (layout headers image).Stands callbacks first rest ∧
    (targets.length + 1) * headers.kind.pointerSize ≤ rest
  words : image.Stores .little headers.kind.pointerSize first
    (targets.map (headers.imageBase.toNat + ·.toNat) ++ [0])
  nonzero : ∀ target ∈ targets, headers.imageBase.toNat + target.toNat ≠ 0

/-- The array that the layout of such an image has. -/
def callbackArray (headers : Headers) (callbacks : UInt64) : PointerArray :=
  { name := "tls_callbacks", address := callbacks, bias := headers.imageBase }

section Chain
variable {image : Bytes} {start : Nat} {kind : Kind} {headers : Headers} {directory : Directory} {place first : Nat}
  {callbacks : UInt64} {targets : List UInt64}

theorem layout_arrays (headers : Headers) (image : Bytes) : (layout headers image).pointerArrays =
    ((callbacks? image (layout headers image)).map (callbackArray headers)).toList := rfl

theorem layout_pointerSize (headers : Headers) (image : Bytes) :
    (layout headers image).pointerSize = headers.kind.pointerSize := by
  have bitness : (layout headers image).bitness = headers.kind.bitness := rfl
  rw [Layout.pointerSize, bitness]
  cases headers.kind <;> rfl

theorem relative_sum {base address : UInt64} (fits : base.toNat + address.toNat < UInt64.size) :
    relative base (base.toNat + address.toNat).toUInt64 = address := by
  have sum : (base.toNat + address.toNat).toUInt64.toNat = base.toNat + address.toNat := UInt64.toNat_ofNat_of_lt' fits
  have above : base ≤ (base.toNat + address.toNat).toUInt64 := UInt64.le_iff_toNat_le.mpr (by omega)
  apply UInt64.toNat_inj.mp
  rw [relative, if_pos above, UInt64.toNat_sub_of_le _ _ above]
  omega

theorem WordAt.lt {kind : Kind} {offset value : Nat} (word : WordAt image kind.pointerSize offset value) :
    value < UInt64.size :=
  Nat.lt_of_lt_of_le (Bytes.word_lt ((word_eq_some_iff kind.pointerSize_pos).mpr word)) kind.capacity_le

/-- The walk finds the array. -/
theorem Chain.callbacks_eq (chain : Chain headers image directory place callbacks first targets)
    (recognized : recognize? image = some (start, kind)) (parsed : parse image start kind = .ok headers) :
    callbacks? image (layout headers image) = some callbacks := by
  have names := names_of_listed recognized parsed chain.listed chain.named
  obtain ⟨rfl, _⟩ := parse_eq_ok parsed
  obtain ⟨rest, stands⟩ := chain.storage
  obtain ⟨found, remaining, mapped, rfl, _⟩ := fileOffset_of_stands parsed stands
  exact callbacks_eq_some.mpr ⟨start, headers.kind, directory.address, found, remaining, _, names, mapped, chain.field,
    chain.occupied, relative_sum chain.field.lt⟩

/-- No target goes around the address space when the image base is added, since the sum is a word. -/
theorem Chain.sum (chain : Chain headers image directory place callbacks first targets) {target : UInt64}
    (member : target ∈ targets) :
    (headers.imageBase + target).toNat = headers.imageBase.toNat + target.toNat := by
  have listed := List.mem_append_left [0] (List.mem_map_of_mem (f := (headers.imageBase.toNat + ·.toNat)) member)
  obtain ⟨index, found⟩ := List.mem_iff_getElem?.mp listed
  have small := Nat.lt_of_lt_of_le (chain.words index _ found).small headers.kind.capacity_le
  rw [UInt64.toNat_add, Nat.mod_eq_of_lt small]

theorem Chain.pointers (chain : Chain headers image directory place callbacks first targets) :
    image.Stores .little headers.kind.pointerSize first
      ((targets.map (headers.imageBase + ·) ++ [0]).map UInt64.toNat) := by
  have numbers : (targets.map (headers.imageBase + ·)).map UInt64.toNat =
      targets.map (headers.imageBase.toNat + ·.toNat) := by
    rw [List.map_map]
    exact List.map_congr_left fun target member => chain.sum member
  rw [List.map_append, numbers]
  exact chain.words

/-- The array is read up to the zero behind the targets. -/
theorem Chain.reading_eq (chain : Chain headers image directory place callbacks first targets)
    (parsed : parse image start kind = .ok headers) (config : Config) :
    (callbackArray headers callbacks).reading (layout headers image) config (.memory image) =
      ({ offer := ⟨"tls_callbacks", targets.take config.maxPointerArrayEntries.toNat⟩ }, .memory image) := by
  obtain ⟨rest, stands, placed⟩ := chain.array
  obtain ⟨found, remaining, mapped, rfl, rfl⟩ := fileOffset_of_stands parsed stands
  have nonzero : ∀ target ∈ targets, headers.imageBase + target ≠ 0 := by
    intro target member zero
    exact chain.nonzero target member ((chain.sum member).symm.trans (congrArg UInt64.toNat zero))
  have size := layout_pointerSize headers image
  exact PointerArray.reading_terminated rfl mapped (size ▸ chain.pointers) nonzero (size ▸ placed)

/-- The chain of thread-local storage is followed to exactly the callbacks at its end. Where it is
whole, the layout has one array, and the array offers the targets that stand in it, as many as the limit
on entries allows. For any other bytes behind the same headers, the layout has no array just if the
walk breaks off, at a word beyond the end of the image or at one that it does not go on with. -/
theorem thread_callbacks_followed (recognized : recognize? image = some (start, kind))
    (parsed : parse image start kind = .ok headers) :
    (∀ directory place callbacks first targets, Chain headers image directory place callbacks first targets →
      (layout headers image).pointerArrays =
        [{ name := "tls_callbacks", address := callbacks, size := none, bias := headers.imageBase }] ∧
      ∀ config : Config, config.sources.pointerArrays = true →
        ((layout headers image).readings config (.memory image)).1 =
          { offer := ⟨"entry_point", [(layout headers image).entry]⟩ } ::
          { offer := ⟨"tls_callbacks", targets.take config.maxPointerArrayEntries.toNat⟩ } ::
          ((layout headers image).enabledSymbols config ++
            ((Source.memory image).readEach (UnwindTable.reading (layout headers image) config)
              ((layout headers image).enabledTables config)).1 ++ Layout.extraReadings config)) ∧
    ∀ other, (layout headers other).pointerArrays = [] ↔ Breaks other (layout headers other) := by
  refine ⟨fun directory place callbacks first targets chain => ?_, fun other => ?_⟩
  · have arrays : (layout headers image).pointerArrays = [callbackArray headers callbacks] := by
      rw [layout_arrays, chain.callbacks_eq recognized parsed]
      rfl
    refine ⟨arrays, fun config enabled => ?_⟩
    have asked : (layout headers image).enabledArrays config = [callbackArray headers callbacks] := by
      rw [Layout.enabledArrays, if_pos enabled, arrays]
    rw [Layout.readings_eq, asked]
    simp only [Source.readEach, chain.reading_eq parsed config, List.cons_append, List.nil_append]
  · rw [layout_arrays, Option.toList_eq_nil_iff, Option.map_eq_none_iff, callbacks_eq_none parsed]

end Chain

/-- An image of one section: the directory for thread-local storage, and the addresses of two callbacks
with a zero behind them. -/
def threadedImage : Bytes := .mk (
  [0x4d, 0x5a] ++ List.replicate 58 0 ++ [64, 0, 0, 0] ++
  -- The signature, the header of the file, and what the walk reads of the optional header.
  signature ++ [0x4c, 0x01, 1, 0] ++ List.replicate 12 0 ++ [0xb0, 0, 0, 0] ++
  [0x0b, 0x01] ++ List.replicate 26 0 ++ [0, 0, 0x40, 0] ++ List.replicate 60 0 ++ [10, 0, 0, 0] ++
  List.replicate 72 0 ++ [0, 0x10, 0, 0, 24, 0, 0, 0] ++
  -- The header of the section.
  [0x2e, 0x74, 0x6c, 0x73, 0, 0, 0, 0, 36, 0, 0, 0, 0, 0x10, 0, 0, 36, 0, 0, 0, 0x30, 0x01, 0, 0] ++
  List.replicate 12 0 ++ [0, 0, 0, 0x40] ++
  -- The directory and the array.
  List.replicate 12 0 ++ [0x18, 0x10, 0x40, 0] ++ List.replicate 8 0 ++
  [0, 0x20, 0x40, 0, 0x10, 0x20, 0x40, 0, 0, 0, 0, 0])

def threadedHeaders : Headers where
  kind := .pe32
  machine := 0x14c
  entry := 0
  imageBase := 0x400000
  directories := List.replicate 9 ⟨0, 0⟩ ++ [⟨0x1000, 24⟩]
  sections := [{
    name := [0x2e, 0x74, 0x6c, 0x73, 0, 0, 0, 0]
    virtualSize := 36
    address := 0x1000
    rawSize := 36
    rawOffset := 304
    characteristics := 0x40000000 }]
  strings := none

def threadedSection : MappedRange :=
  { label := ".tls", index := 1, base := 0x1000, fileOffset := some 304, length := 36, permissions.read := true }

theorem threaded_chain : Chain threadedHeaders threadedImage ⟨0x1000, 24⟩ 304 0x1018 328 [0x2000, 0x2010] where
  listed := rfl
  named := by decide
  storage := ⟨36, threadedSection, 304, 0, by decide +kernel, rfl, rfl, rfl, rfl⟩
  field := ⟨by decide +kernel, by decide +kernel⟩
  occupied := by decide
  array := ⟨12, ⟨threadedSection, 304, 0x18, by decide +kernel, rfl, rfl, rfl, rfl⟩, by decide⟩
  words := by
    intro place word listed
    match place with
    | 0 | 1 | 2 =>
      cases listed
      exact ⟨by decide +kernel, by decide +kernel⟩
    | _ + 3 => cases listed
  nonzero := fun target _ => Nat.ne_of_gt (Nat.add_pos_left (by decide) target.toNat)

/-- Both callbacks are offered, or just the first where no more is allowed. A file that ends behind the
signature of its first header has no array. -/
theorem threaded_image_followed :
    recognize? threadedImage = some (64, .pe32) ∧ parse threadedImage 64 .pe32 = .ok threadedHeaders ∧
    (layout threadedHeaders threadedImage).pointerArrays =
      [{ name := "tls_callbacks", address := 0x1018, bias := 0x400000 }] ∧
    ((layout threadedHeaders threadedImage).readings {} (.memory threadedImage)).1[1]? =
      some { offer := ⟨"tls_callbacks", [0x2000, 0x2010]⟩ } ∧
    ((layout threadedHeaders threadedImage).readings { maxPointerArrayEntries := 1 } (.memory threadedImage)).1[1]? =
      some { offer := ⟨"tls_callbacks", [0x2000]⟩ } ∧
    (layout threadedHeaders #[0x4d, 0x5a]).pointerArrays = [] := by
  have recognized : recognize? threadedImage = some (64, .pe32) := by decide +kernel
  have parsed : parse threadedImage 64 .pe32 = .ok threadedHeaders := by decide +kernel
  obtain ⟨followed, broken⟩ := thread_callbacks_followed recognized parsed
  obtain ⟨arrays, readings⟩ := followed _ _ _ _ _ threaded_chain
  refine ⟨recognized, parsed, arrays, ?_, ?_, (broken #[0x4d, 0x5a]).mpr (.headers (.short (by decide)))⟩
  · rw [readings {} rfl]
    rfl
  · rw [readings { maxPointerArrayEntries := 1 } rfl]
    rfl

end IsaCensus.Pe
