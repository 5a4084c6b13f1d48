import IsaCensus.Container.Image
import IsaCensus.Proofs.AddressMaps

/-! The headers of a PE image. They are read twice: as a whole, to make a layout of them, and word by
word on the way to the directory for thread-local storage. Headers that are read as a whole name a
directory where the second way finds it, and their sections are small enough for every offset into
them to be counted. The second way also takes headers that are cut off anywhere. -/

namespace IsaCensus

/-- The first range with file data that contains an address has it at this offset of the file, and so
many bytes from there to its end. -/
def Layout.Stands (layout : Layout) (address : UInt64) (offset rest : Nat) : Prop :=
  ∃ range start delta, layout.backing? address = some range ∧ range.fileOffset = some start ∧
    range.base.toNat + delta = address.toNat ∧ start.toNat + delta = offset ∧ delta + rest = range.length.toNat

namespace Pe

/-- The word of so many bytes at an offset lies inside the image, and has this value. -/
structure WordAt (image : Bytes) (width offset value : Nat) : Prop where
  inside : offset + width ≤ image.size
  value : Endian.little.value (image.extract offset (offset + width)).toList = value

section Words
variable {image : Bytes} {width offset : Nat}

theorem WordAt.unique {value other : Nat} (word : WordAt image width offset value)
    (also : WordAt image width offset other) : value = other :=
  word.value.symm.trans also.value

theorem word_eq_some_iff (wide : 0 < width) {value : Nat} :
    image.word? .little width offset = some value ↔ WordAt image width offset value := by
  constructor
  · intro found
    have inside := Bytes.word_fits wide found
    exact ⟨inside, Option.some.inj ((Bytes.word_inside inside).symm.trans found)⟩
  · intro word
    rw [Bytes.word_inside word.inside, word.value]

theorem cut_or_word (image : Bytes) (width offset : Nat) :
    image.size < offset + width ∨ ∃ value, WordAt image width offset value := by
  rcases Nat.lt_or_ge image.size (offset + width) with cut | inside
  · exact .inl cut
  · exact .inr ⟨_, inside, rfl⟩

theorem readWord_lt (image : Bytes) (width offset : Nat) : readWord image width offset < capacity width := by
  cases found : image.word? .little width offset with
  | none =>
    rw [readWord, found]
    exact capacity_pos width
  | some value =>
    rw [readWord, found]
    exact Bytes.word_lt found

/-- A part of the image that is read as something else than zero lies inside. -/
theorem readWord_wordAt (wide : 0 < width) (nonzero : readWord image width offset ≠ 0) :
    WordAt image width offset (readWord image width offset) := by
  rcases cut_or_word image width offset with cut | ⟨value, word⟩
  · rw [readWord, (Bytes.word_eq_none_iff wide).mpr cut] at nonzero
    exact absurd rfl nonzero
  · have found := (word_eq_some_iff wide).mpr word
    rw [readWord, found]
    exact word

end Words

/-! The headers, as far as the walk follows them. -/

/-- The image gives the place of its signature, and the magic number behind it is of this kind. -/
structure Headed (image : Bytes) (start : Nat) (kind : Kind) : Prop where
  begins : WordAt image 4 0x3c start
  signature : image.startsAt start signature = true
  magic : ∃ magic, WordAt image 2 (start + 24) magic ∧ Kind.ofMagic? magic = some kind

theorem Headed.unique {image : Bytes} {start other : Nat} {kind second : Kind} (headed : Headed image start kind)
    (also : Headed image other second) : start = other ∧ kind = second := by
  have same := headed.begins.unique also.begins
  subst same
  obtain ⟨magic, word, known⟩ := headed.magic
  obtain ⟨_, found, recognized⟩ := also.magic
  cases word.unique found
  exact ⟨rfl, Option.some.inj (known.symm.trans recognized)⟩

/-- There are more than nine directories, and the one for thread-local storage has an address. -/
structure Names (image : Bytes) (start : Nat) (kind : Kind) (directory : Nat) : Prop where
  headed : Headed image start kind
  counted : ∃ count, 9 < count ∧ WordAt image 4 (start + 24 + kind.optionalSize - 4) count
  address : WordAt image 4 (start + 24 + kind.optionalSize + 8 * 9) directory
  nonzero : directory ≠ 0

theorem Names.unique {image : Bytes} {start other directory second : Nat} {kind form : Kind}
    (names : Names image start kind directory) (also : Names image other form second) :
    kind = form ∧ directory = second := by
  obtain ⟨rfl, rfl⟩ := names.headed.unique also.headed
  exact ⟨rfl, names.address.unique also.address⟩

/-- How the headers of an image can fail to name a directory: each word may be cut off by the end of
the image, or have a value that the walk does not go on with. -/
inductive Unnamed (image : Bytes) : Prop
  | short (cut : image.size < 0x3c + 4)
  | unsigned {start} (begins : WordAt image 4 0x3c start) (missing : image.startsAt start signature = false)
  | magicless {start} (begins : WordAt image 4 0x3c start) (signed : image.startsAt start signature = true)
      (cut : image.size < start + 24 + 2)
  | foreign {start magic} (begins : WordAt image 4 0x3c start) (signed : image.startsAt start signature = true)
      (found : WordAt image 2 (start + 24) magic) (unknown : Kind.ofMagic? magic = none)
  | uncounted {start kind} (headed : Headed image start kind)
      (cut : image.size < start + 24 + kind.optionalSize - 4 + 4)
  | few {start kind count} (headed : Headed image start kind)
      (counted : WordAt image 4 (start + 24 + kind.optionalSize - 4) count) (few : count ≤ 9)
  | unlisted {start kind} (headed : Headed image start kind)
      (cut : image.size < start + 24 + kind.optionalSize + 8 * 9 + 4)
  | absent {start kind} (headed : Headed image start kind)
      (zero : WordAt image 4 (start + 24 + kind.optionalSize + 8 * 9) 0)

theorem threadStorage_eq_some {image : Bytes} {kind : Kind} {directory : Nat} :
    threadStorage? image = some (kind, directory) ↔ ∃ start, Names image start kind directory := by
  simp only [threadStorage?, Option.bind_eq_bind, Option.bind_eq_some_iff, Option.guard_eq_some', Option.pure_def,
    Option.some_inj, Prod.mk.injEq, word_eq_some_iff (by decide : 0 < 4), word_eq_some_iff (by decide : 0 < 2)]
  constructor
  · rintro ⟨start, begins, _, signed, magic, found, _, known, count, counted, _, many, _, listed, _, nonzero, rfl, rfl⟩
    exact ⟨start, ⟨begins, signed, magic, found, known⟩, ⟨count, many, counted⟩, listed, nonzero⟩
  · rintro ⟨start, ⟨begins, signed, magic, found, known⟩, ⟨count, many, counted⟩, listed, nonzero⟩
    exact ⟨start, begins, (), signed, magic, found, kind, known, count, counted, (), many, directory, listed, (),
      nonzero, rfl, rfl⟩

/-- The words of the headers are followed one by one. -/
theorem unnamed_or_names (image : Bytes) :
    Unnamed image ∨ ∃ start kind directory, Names image start kind directory := by
  rcases cut_or_word image 4 0x3c with cut | ⟨start, begins⟩
  · exact .inl (.short cut)
  cases signed : image.startsAt start signature with
  | false => exact .inl (.unsigned begins signed)
  | true =>
    rcases cut_or_word image 2 (start + 24) with cut | ⟨magic, found⟩
    · exact .inl (.magicless begins signed cut)
    cases known : Kind.ofMagic? magic with
    | none => exact .inl (.foreign begins signed found known)
    | some kind =>
      have headed : Headed image start kind := ⟨begins, signed, magic, found, known⟩
      rcases cut_or_word image 4 (start + 24 + kind.optionalSize - 4) with cut | ⟨count, counted⟩
      · exact .inl (.uncounted headed cut)
      rcases Nat.lt_or_ge 9 count with many | few
      · rcases cut_or_word image 4 (start + 24 + kind.optionalSize + 8 * 9) with cut | ⟨directory, address⟩
        · exact .inl (.unlisted headed cut)
        by_cases zero : directory = 0
        · exact .inl (.absent headed (zero ▸ address))
        · exact .inr ⟨start, kind, directory, headed, ⟨count, many, counted⟩, address, zero⟩
      · exact .inl (.few headed counted few)

theorem Unnamed.not_names {image : Bytes} (unnamed : Unnamed image) {start directory : Nat} {kind : Kind} :
    ¬Names image start kind directory := by
  rintro ⟨headed, ⟨count, many, counted⟩, address, nonzero⟩
  cases unnamed with
  | short cut => exact absurd headed.begins.inside (Nat.not_le_of_gt cut)
  | unsigned begins missing =>
    cases begins.unique headed.begins
    cases missing.symm.trans headed.signature
  | magicless begins _ cut =>
    cases begins.unique headed.begins
    obtain ⟨_, found, _⟩ := headed.magic
    exact absurd found.inside (Nat.not_le_of_gt cut)
  | foreign begins _ found unknown =>
    cases begins.unique headed.begins
    obtain ⟨_, also, known⟩ := headed.magic
    cases found.unique also
    cases unknown.symm.trans known
  | uncounted other cut =>
    obtain ⟨rfl, rfl⟩ := other.unique headed
    exact absurd counted.inside (Nat.not_le_of_gt cut)
  | few other also few =>
    obtain ⟨rfl, rfl⟩ := other.unique headed
    cases counted.unique also
    exact absurd many (Nat.not_lt_of_le few)
  | unlisted other cut =>
    obtain ⟨rfl, rfl⟩ := other.unique headed
    exact absurd address.inside (Nat.not_le_of_gt cut)
  | absent other zero =>
    obtain ⟨rfl, rfl⟩ := other.unique headed
    exact nonzero (address.unique zero)

/-! The headers that a layout is made from. -/

section Parsed
variable {image : Bytes} {start : Nat} {kind : Kind} {headers : Headers}

theorem recognize_headed (recognized : recognize? image = some (start, kind)) : Headed image start kind := by
  simp only [recognize?, Option.bind_eq_bind, Option.bind_eq_some_iff, Option.guard_eq_some', Option.pure_def,
    Option.some_inj, Prod.mk.injEq, word_eq_some_iff (by decide : 0 < 4), word_eq_some_iff (by decide : 0 < 2)]
    at recognized
  obtain ⟨_, _, _, begins, _, _, _, signed, magic, found, _, known, rfl, rfl⟩ := recognized
  exact ⟨begins, signed, magic, found, known⟩

theorem parse_eq_ok (parsed : parse image start kind = .ok headers) :
    headers.kind = kind ∧
    headers.directories = (List.range (readWord image 4 (start + 24 + kind.optionalSize - 4))).map (fun i =>
      ⟨readWord image 4 (start + 24 + kind.optionalSize + 8 * i),
        readWord image 4 (start + 24 + kind.optionalSize + 8 * i + 4)⟩) ∧
    ∃ places : List Nat, headers.sections = places.map (SectionHeader.read image) := by
  simp only [parse, bind, Except.bind, pure, Except.pure, throw, throwThe, MonadExceptOf.throw] at parsed
  split at parsed
  · cases parsed
  split at parsed
  · cases parsed
  split at parsed
  · cases parsed
  split at parsed
  · cases parsed
  split at parsed
  · cases parsed
  next places _ =>
    cases parsed
    exact ⟨rfl, rfl, places, rfl⟩

/-- The headers name a directory where the walk finds one. -/
theorem names_of_listed (recognized : recognize? image = some (start, kind))
    (parsed : parse image start kind = .ok headers) {directory : Directory}
    (listed : headers.directories[9]? = some directory) (nonzero : directory.address ≠ 0) :
    Names image start kind directory.address := by
  obtain ⟨_, directories, _⟩ := parse_eq_ok parsed
  rw [directories, List.getElem?_map, Option.map_eq_some_iff] at listed
  obtain ⟨index, counted, rfl⟩ := listed
  obtain ⟨many, rfl⟩ := List.getElem?_eq_some_iff.mp counted
  rw [List.length_range] at many
  rw [List.getElem_range] at nonzero ⊢
  exact ⟨recognize_headed recognized, ⟨_, many, readWord_wordAt (by decide) (Nat.ne_of_gt (by omega))⟩,
    readWord_wordAt (by decide) nonzero, nonzero⟩

/-- Section headers write numbers in four bytes. -/
theorem fileRange_lt {begin offset size : Nat} (ranged : (SectionHeader.read image begin).fileRange? = some (offset, size)) :
    offset < UInt32.size ∧ size < UInt32.size := by
  unfold SectionHeader.fileRange? at ranged
  split at ranged
  next => cases ranged
  next =>
    cases ranged
    have bound : readWord image 4 (begin + 16) < UInt32.size := readWord_lt image 4 (begin + 16)
    exact ⟨readWord_lt image 4 (begin + 20), Nat.lt_of_le_of_lt (Nat.min_le_right _ _) bound⟩

/-- The part of a section with bytes in the file ends at an offset that a machine word can count. -/
theorem section_fits (parsed : parse image start kind = .ok headers) {other : Bytes} {range : MappedRange}
    (listed : range ∈ (layout headers other).sections) {place : UInt64} (placed : range.fileOffset = some place) :
    place.toNat + range.length.toNat < UInt64.size := by
  obtain ⟨_, _, places, sections⟩ := parse_eq_ok parsed
  obtain ⟨index, inside, rfl⟩ := List.mem_mapIdx.mp listed
  have member := List.getElem_mem inside
  generalize headers.sections[index] = header at member placed ⊢
  rw [sections] at member
  obtain ⟨begin, _, rfl⟩ := List.mem_map.mp member
  obtain ⟨⟨offset, size⟩, ranged, rfl⟩ := Option.map_eq_some_iff.mp placed
  obtain ⟨early, short⟩ := fileRange_lt ranged
  have first : offset.toUInt64.toNat ≤ offset := Nat.mod_le _ _
  have second : size.toUInt64.toNat ≤ size := Nat.mod_le _ _
  have room : UInt32.size + UInt32.size < UInt64.size := by decide
  simp only [mappedSection, ranged]
  omega

/-- No offset into a section goes beyond what a machine word can count. -/
theorem fileOffset_of_stands (parsed : parse image start kind = .ok headers) {other : Bytes} {address : UInt64}
    {offset rest : Nat} (stands : (layout headers other).Stands address offset rest) :
    ∃ found remaining, (layout headers other).fileOffset? address = some (found, remaining) ∧
      found.toNat = offset ∧ remaining.toNat = rest := by
  obtain ⟨range, place, delta, backing, placed, counted, rfl, inside⟩ := stands
  have fits := section_fits parsed (List.mem_of_find?_eq_some backing) placed
  have size := range.length.toNat_lt
  have found : (place.toNat + delta).toUInt64.toNat = place.toNat + delta := UInt64.toNat_ofNat_of_lt' (by omega)
  have remaining : rest.toUInt64.toNat = rest := UInt64.toNat_ofNat_of_lt' (Nat.lt_of_le_of_lt (by omega) size)
  refine ⟨_, _, Layout.fileOffset_eq_some.mpr ⟨range, place, delta, backing, placed, counted, found, ?_⟩, found, remaining⟩
  omega

/-- An address has no place in the file just if no section with file data contains it. -/
theorem fileOffset_eq_none (parsed : parse image start kind = .ok headers) {other : Bytes} {address : UInt64} :
    (layout headers other).fileOffset? address = none ↔
      ∀ range ∈ (layout headers other).sections, range.fileOffset.isSome = true → range.contains address = false := by
  have backing : (layout headers other).backing? address = none ↔
      ∀ range ∈ (layout headers other).sections, range.fileOffset.isSome = true → range.contains address = false := by
    simp only [Layout.backing?, List.find?_eq_none, Bool.and_eq_true, not_and, Bool.not_eq_true]
    rfl
  rw [← backing]
  constructor
  · intro nowhere
    cases found : (layout headers other).backing? address with
    | none => rfl
    | some range =>
      have chosen := List.find?_some found
      obtain ⟨place, placed⟩ := Option.isSome_iff_exists.mp (Bool.and_eq_true_iff.mp chosen).1
      obtain ⟨delta, inside, counted⟩ := MappedRange.contains_iff.mp (Layout.backing_contains found)
      have stands : (layout headers other).Stands address (place.toNat + delta) (range.length.toNat - delta) :=
        ⟨range, place, delta, found, placed, counted, rfl, by omega⟩
      obtain ⟨_, _, mapped, _⟩ := fileOffset_of_stands parsed stands
      cases nowhere.symm.trans mapped
  · intro outside
    rw [Layout.fileOffset?, outside]
    rfl

end Parsed

end Pe

end IsaCensus
