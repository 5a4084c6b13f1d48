import Mathlib.Data.List.Basic
import IsaCensus.Proofs.BoundedReads

/-! What is read of the ranges that hold code. Of each range one gets the bytes that its length,
the cap and the end of the file leave, as one region, and every range that comes out shorter than
it should is told of once. A file that refuses a range keeps its budget for the ranges after it. -/

namespace IsaCensus

namespace Budget

/-- So many more bytes may be read. Where there is no budget, there is no limit. -/
def Grants (budget : Option Budget) (count : Nat) : Prop :=
  ∀ known, budget = some known → known.spent + count ≤ known.limit

def charge (count : Nat) (budget : Budget) : Budget := { budget with spent := budget.spent + count }

theorem grants_or_exceeds (budget : Option Budget) (count : Nat) :
    Grants budget count ∨ ∃ known, budget = some known ∧ known.limit < known.spent + count := by
  cases budget with
  | none => exact .inl nofun
  | some known =>
    by_cases fits : known.spent + count ≤ known.limit
    · exact .inl fun _ same => Option.some.inj same ▸ fits
    · exact .inr ⟨known, rfl, Nat.lt_of_not_le fits⟩

end Budget

namespace Source
variable {source : Source} {request : Request}

/-- A part that is empty is given out under every budget. -/
theorem answer_nothing (empty : (request.found source.content).size = 0) :
    source.answer request = (.ok (request.found source.content), source) := by
  obtain ⟨content, budget⟩ := source
  cases budget with
  | none => rfl
  | some budget => exact if_pos empty

theorem answer_affordable (affordable : Budget.Grants source.budget (request.found source.content).size) :
    source.answer request = (.ok (request.found source.content),
      { source with budget := source.budget.map (Budget.charge (request.found source.content).size) }) := by
  obtain ⟨content, budget⟩ := source
  cases budget with
  | none => rfl
  | some budget => exact answer_granted (affordable budget rfl)

theorem answer_exceeding {budget : Budget} (limited : source.budget = some budget)
    (occupied : 0 < (request.found source.content).size)
    (exceeds : budget.limit < budget.spent + (request.found source.content).size) :
    source.answer request = (.error (.readLimitExceeded budget.limit budget.spent), source) := by
  obtain ⟨content, _⟩ := source
  cases limited
  exact (if_neg (Nat.ne_of_gt occupied)).trans (if_pos exceeds)

end Source

namespace MappedRange

/-- Executable, not empty, and with bytes in the file. -/
def Executable (range : MappedRange) : Prop :=
  range.permissions.execute = true ∧ 0 < range.length ∧ ∃ offset, range.fileOffset = some offset

theorem holdsCode_iff {range : MappedRange} : range.holdsCode = true ↔ range.Executable := by
  simp [holdsCode, Executable, Option.isSome_iff_exists, and_assoc]

instance : DecidablePred Executable := fun _ => decidable_of_iff _ holdsCode_iff

/-- How many bytes there are to be read of a range at an offset: no more than it has, than the cap
allows, and than the file holds from there. -/
def available (range : MappedRange) (content : Bytes) (cap offset : UInt64) : Nat :=
  min (min range.length.toNat cap.toNat) (content.size - offset.toNat)

/-- The region of so many bytes of a range, from its offset on. -/
def excerpt (range : MappedRange) (domain : Domain) (content : Bytes) (offset : UInt64) (count : Nat) : Region where
  label := range.label
  base := domain.normalize range.base
  bytes := content.extract offset.toNat (offset.toNat + count)

/-- What becomes of one range: a region or none, and an issue or none. -/
inductive Extracts (content : Bytes) (cap : UInt64) (domain : Domain) (range : MappedRange) :
    Option Budget → Option Region → Option Issue → Option Budget → Prop
  | missing {budget offset} (placed : range.fileOffset = some offset)
      (nothing : range.available content cap offset = 0) :
      Extracts content cap domain range budget none
        (some ⟨.regionUnreadable, range.label ++ ": no file data at offset " ++ Text.hex offset.toNat⟩) budget
  | refused {budget : Budget} {offset} (placed : range.fileOffset = some offset)
      (occupied : 0 < range.available content cap offset)
      (exceeds : budget.limit < budget.spent + range.available content cap offset) :
      Extracts content cap domain range (some budget) none
        (some ⟨.regionUnreadable,
          range.label ++ ": " ++ (ReadFault.readLimitExceeded budget.limit budget.spent).message⟩) (some budget)
  | truncated {budget offset} (placed : range.fileOffset = some offset)
      (occupied : 0 < range.available content cap offset)
      (short : range.available content cap offset < range.length.toNat)
      (affordable : Budget.Grants budget (range.available content cap offset)) :
      Extracts content cap domain range budget
        (some (range.excerpt domain content offset (range.available content cap offset)))
        (some ⟨.regionTruncated, range.label ++ ": read " ++ Text.hex (range.available content cap offset) ++
          " of " ++ Text.hex range.length.toNat ++ " bytes"⟩)
        (budget.map (Budget.charge (range.available content cap offset)))
  | whole {budget offset} (placed : range.fileOffset = some offset)
      (occupied : 0 < range.available content cap offset)
      (full : range.available content cap offset = range.length.toNat)
      (affordable : Budget.Grants budget (range.available content cap offset)) :
      Extracts content cap domain range budget
        (some (range.excerpt domain content offset (range.available content cap offset))) none
        (budget.map (Budget.charge (range.available content cap offset)))

theorem toNat_min (a b : UInt64) : (min a b).toNat = min a.toNat b.toNat := by
  change (if a ≤ b then a else b).toNat = _
  split
  next le => exact (Nat.min_eq_left (UInt64.le_iff_toNat_le.mp le)).symm
  next gt => exact (Nat.min_eq_right (Nat.le_of_not_le fun le => gt (UInt64.le_iff_toNat_le.mpr le))).symm

section Extract
variable (range : MappedRange) (cap offset : UInt64)

theorem found_available (content : Bytes) : Request.found content ⟨offset, min range.length cap⟩ =
    content.extract offset.toNat (offset.toNat + range.available content cap offset) := by
  change content.window offset.toNat (min range.length cap).toNat = _
  apply Array.toList_inj.mp
  rw [Source.window_toList, Array.toList_extract, List.extract_eq_take_drop, List.take_eq_take_iff, List.length_drop,
    Array.length_toList, toNat_min, available]
  omega

theorem size_available (content : Bytes) :
    (content.extract offset.toNat (offset.toNat + range.available content cap offset)).size =
      range.available content cap offset := by
  rw [Array.size_extract, available]
  omega

variable {offset}

theorem extract_eq (domain : Domain) (source : Source) (placed : range.fileOffset = some offset) :
    range.extract domain cap source =
      (range.extraction domain offset (source.answer ⟨offset, min range.length cap⟩).1,
        (source.answer ⟨offset, min range.length cap⟩).2) := by
  rw [extract, placed]
  rfl

/-- A range with a place in the file comes to just what its length, the cap, the end of the file
and the budget leave of it, and the source is left with what its budget is then. -/
theorem extract_extracts (domain : Domain) (source : Source) (placed : range.fileOffset = some offset) :
    ∃ left, Extracts source.content cap domain range source.budget
        (range.extract domain cap source).1.region (range.extract domain cap source).1.issue left ∧
      (range.extract domain cap source).2 = { source with budget := left } := by
  have found := range.found_available cap offset source.content
  have size := range.size_available cap offset source.content
  rw [← found] at size
  rw [range.extract_eq cap domain source placed]
  rcases Nat.eq_zero_or_pos (range.available source.content cap offset) with nothing | occupied
  · rw [Source.answer_nothing (size.trans nothing)]
    simp only [extraction, size, if_pos nothing]
    exact ⟨_, .missing placed nothing, rfl⟩
  rcases Budget.grants_or_exceeds source.budget (range.available source.content cap offset) with
    affordable | ⟨budget, limited, exceeds⟩
  · rw [Source.answer_affordable (size ▸ affordable)]
    simp only [extraction, size, if_neg (Nat.ne_of_gt occupied)]
    rw [found]
    refine ⟨_, ?_, rfl⟩
    split
    next short => exact .truncated placed occupied short affordable
    next long =>
      have full : range.available source.content cap offset = range.length.toNat := by
        rw [available] at long ⊢
        omega
      exact .whole placed occupied full affordable
  · rw [Source.answer_exceeding limited (size ▸ occupied) (size ▸ exceeds), limited]
    exact ⟨_, .refused placed occupied exceeds, by rw [← limited]⟩

end Extract

/-- Regions are never empty and never longer than the cap. -/
theorem Extracts.bounded {content : Bytes} {cap : UInt64} {domain : Domain} {range : MappedRange}
    {budget left : Option Budget} {region : Region} {issue : Option Issue}
    (extracts : Extracts content cap domain range budget (some region) issue left) :
    0 < region.length ∧ region.length ≤ cap.toNat := by
  have within {offset : UInt64} : range.available content cap offset ≤ cap.toNat := by
    rw [available]
    omega
  cases extracts with
  | truncated _ occupied | whole _ occupied =>
    rw [excerpt, Region.length, size_available]
    exact ⟨occupied, within⟩

/-- What becomes of ranges that are read one after the other, under a budget that the first ones may
use up. -/
inductive Resolves (content : Bytes) (cap : UInt64) (domain : Domain) :
    Option Budget → List MappedRange → List Region → List Issue → Option Budget → Prop
  | nil {budget} : Resolves content cap domain budget [] [] [] budget
  | cons {budget range region issue middle ranges regions issues left}
      (first : Extracts content cap domain range budget region issue middle)
      (others : Resolves content cap domain middle ranges regions issues left) :
      Resolves content cap domain budget (range :: ranges) (region.toList ++ regions) (issue.toList ++ issues) left

theorem Resolves.bounded {content : Bytes} {cap : UInt64} {domain : Domain} {budget left : Option Budget}
    {ranges : List MappedRange} {regions : List Region} {issues : List Issue}
    (resolves : Resolves content cap domain budget ranges regions issues left) :
    ∀ region ∈ regions, 0 < region.length ∧ region.length ≤ cap.toNat := by
  induction resolves with
  | nil => exact nofun
  | @cons _ _ region _ _ _ _ _ _ first others ih =>
    intro other listed
    rcases List.mem_append.mp listed with own | later
    · cases Option.mem_toList.mp own
      exact first.bounded
    · exact ih other later

theorem readEach_resolves (cap : UInt64) (domain : Domain) (ranges : List MappedRange) (source : Source)
    (executable : ∀ range ∈ ranges, range.Executable) :
    ∃ left, Resolves source.content cap domain source.budget ranges
        ((source.readEach (extract domain cap) ranges).1.filterMap Extraction.region)
        ((source.readEach (extract domain cap) ranges).1.filterMap Extraction.issue) left ∧
      (source.readEach (extract domain cap) ranges).2 = { source with budget := left } := by
  induction ranges generalizing source with
  | nil => exact ⟨_, .nil, rfl⟩
  | cons range ranges ih =>
    obtain ⟨_, _, offset, placed⟩ := executable range List.mem_cons_self
    obtain ⟨middle, first, turn⟩ := extract_extracts range cap domain source placed
    obtain ⟨left, others, last⟩ := ih (range.extract domain cap source).2
      fun other listed => executable other (List.mem_cons_of_mem _ listed)
    rw [turn] at others last
    refine ⟨left, ?_, ?_⟩
    · simp only [Source.readEach, List.filterMap_eq_flatMap_toList, List.flatMap_cons, turn] at others ⊢
      exact .cons first others
    · simpa only [Source.readEach, turn] using last

end MappedRange

namespace Layout

/-- The executable segments, or if there are none the executable sections, in the order of the
layout. -/
def executable (layout : Layout) : List MappedRange :=
  if ∃ segment ∈ layout.segments, segment.Executable then layout.segments.filter (·.Executable)
  else layout.sections.filter (·.Executable)

theorem executable_of_mem {layout : Layout} {range : MappedRange} (listed : range ∈ layout.executable) :
    range.Executable := by
  unfold executable at listed
  split at listed <;> exact of_decide_eq_true (List.mem_filter.mp listed).2

theorem code_eq_executable (layout : Layout) : layout.code.2 = layout.executable := by
  have same : MappedRange.holdsCode = fun range : MappedRange => decide range.Executable := by
    funext range
    rw [← Bool.decide_coe range.holdsCode]
    exact decide_eq_decide.mpr MappedRange.holdsCode_iff
  have none_iff : layout.segments.filter (·.Executable) = [] ↔
      ¬∃ segment ∈ layout.segments, segment.Executable := by
    simp only [List.filter_eq_nil_iff, decide_eq_true_eq, not_exists, not_and]
  unfold code executable
  rw [same]
  split
  next none others => rw [if_neg (none_iff.mp none), others]
  next none _ => rw [if_neg (none_iff.mp none)]
  next some _ => rw [if_pos (Decidable.not_not.mp fun missing => some (none_iff.mpr missing))]

/-- The regions of a layout are what its executable segments come to, or its executable sections if
no segment is executable, read one after the other. Each range gives the bytes that its length, the cap
and the end of the file leave, in a region with its label and its normalized base. It gives no region if
that is nothing, and one issue if it is less than its length. A range that the budget does not allow is
told of in one issue and leaves the budget to the ranges behind it. -/
theorem executable_ranges_resolve (layout : Layout) (config : Config) (source : Source) :
    ∃ left, MappedRange.Resolves source.content config.maxRegionBytes layout.domain source.budget layout.executable
        (layout.regions config source).1.regions (layout.regions config source).1.issues left ∧
      (layout.regions config source).2 = { source with budget := left } ∧
      ∀ region ∈ (layout.regions config source).1.regions,
        0 < region.length ∧ region.length ≤ config.maxRegionBytes.toNat := by
  have ⟨left, resolves, rest⟩ := MappedRange.readEach_resolves config.maxRegionBytes layout.domain
    layout.executable source fun _ => executable_of_mem
  rw [← code_eq_executable] at rest
  have found : MappedRange.Resolves source.content config.maxRegionBytes layout.domain source.budget
      layout.executable (layout.regions config source).1.regions (layout.regions config source).1.issues left := by
    rwa [regions, code_eq_executable]
  exact ⟨left, found, rest, found.bounded⟩

end Layout

end IsaCensus
