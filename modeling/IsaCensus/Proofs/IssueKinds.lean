import IsaCensus.Proofs.Findings
import IsaCensus.Proofs.TraversalIssues

/-! The kinds of issue that a census finds. Each phase tells of troubles of its own: the bytes of
a range, a table of seeds, or an instruction and the end of a traversal. -/

namespace IsaCensus

/-- The kinds of issue that tell of a range of code. -/
def MappedRange.troubles : List IssueKind := [.regionTruncated, .regionUnreadable]

/-- The kinds of issue that tell of a table of seeds. -/
def Reading.troubles : List IssueKind := [.seedSource, .unsupportedEncoding]

theorem MappedRange.extract_kind (domain : Domain) (cap : UInt64) (range : MappedRange) (source : Source) :
    ∀ issue, (range.extract domain cap source).1.issue = some issue → issue.kind ∈ troubles := by
  intro issue told
  unfold extract extraction at told
  cases place : range.fileOffset with
  | none => simp [place] at told
  | some offset =>
    simp only [place] at told
    split at told
    next =>
      cases told
      simp [troubles]
    next =>
      split at told
      · cases told
        simp [troubles]
      · simp only [Option.ite_none_right_eq_some] at told
        obtain ⟨_, told⟩ := told
        cases told
        simp [troubles]

theorem Reading.ofTable_kind {layout : Layout} {decode : Bytes → Reading}
    (decoded : ∀ bytes issue, (decode bytes).issue = some issue → issue.kind ∈ troubles)
    (name : String) (address : UInt64) (length : UInt64 → UInt64) (source : Source) :
    ∀ issue, (ofTable layout name address length decode source).1.issue = some issue → issue.kind ∈ troubles := by
  intro issue told
  unfold ofTable at told
  split at told
  · cases told
    simp [troubles]
  · split at told
    · cases told
      simp [troubles]
    · exact decoded _ issue told

namespace Layout
variable (layout : Layout) (config : Config)

theorem regions_kind (source : Source) :
    ∀ issue ∈ (layout.regions config source).1.issues, issue.kind ∈ MappedRange.troubles := by
  intro issue listed
  obtain ⟨extraction, member, told⟩ := List.mem_filterMap.mp listed
  obtain ⟨range, _, turn, rfl⟩ := Source.mem_readEach _ member
  exact range.extract_kind layout.domain config.maxRegionBytes turn issue told

theorem array_kind (array : PointerArray) (source : Source) :
    ∀ issue, (array.reading layout config source).1.issue = some issue → issue.kind ∈ Reading.troubles := by
  refine Reading.ofTable_kind ?_ _ _ _ source
  intro bytes issue told
  cases told

theorem table_kind (table : UnwindTable) (source : Source) :
    ∀ issue, (table.reading layout config source).1.issue = some issue → issue.kind ∈ Reading.troubles := by
  refine Reading.ofTable_kind ?_ _ _ _ source
  intro bytes issue told
  obtain ⟨fault, _, rfl⟩ := Option.map_eq_some_iff.mp told
  cases encoding : fault.isEncoding <;> simp [Reading.troubles, UnwindTable.issue, encoding]

theorem seeds_kind (regions : List Region) (source : Source) :
    ∀ issue ∈ (layout.seeds config regions source).1.issues, issue.kind ∈ Reading.troubles := by
  have silent (offers : List Offer) : (offers.map fun offer => ({ offer } : Reading)).filterMap Reading.issue = [] := by
    rw [List.filterMap_map, List.filterMap_eq_nil_iff]
    exact fun _ _ => rfl
  intro issue listed
  simp only [seeds, readings, List.filterMap_append, silent, List.append_nil, List.mem_append] at listed
  rcases listed with (entry | array) | table
  · exact absurd entry List.not_mem_nil
  · obtain ⟨reading, member, told⟩ := List.mem_filterMap.mp array
    obtain ⟨array, _, turn, rfl⟩ := Source.mem_readEach _ member
    exact layout.array_kind config array turn issue told
  · obtain ⟨reading, member, told⟩ := List.mem_filterMap.mp table
    obtain ⟨table, _, turn, rfl⟩ := Source.mem_readEach _ member
    exact layout.table_kind config table turn issue told

theorem groundwork_kind (source : Source) : ∀ issue ∈ (layout.groundwork config source).1.issues,
    issue.kind ∈ MappedRange.troubles ++ Reading.troubles := by
  intro issue told
  rw [List.mem_append]
  rcases List.mem_append.mp told with region | seed
  · exact .inl (layout.regions_kind config source issue region)
  · exact .inr (layout.seeds_kind config _ _ issue seed)

end Layout

namespace Traversal
variable {κ φ : Type} [DecidableEq φ] (setting : Setting κ φ)

theorem moment_kind (seeds : List UInt64) (time : Nat) : ∀ issue ∈ (moment setting seeds time).issues,
    issue.kind ∈ [.unresolvedAddress, .budget] ++ complaints := by
  refine @moment_keeps _ _ _ setting (fun state => ∀ issue ∈ state.issues,
    issue.kind ∈ [.unresolvedAddress, .budget] ++ complaints) seeds ?_ ?_ time
  · exact fun issue told => absurd told (Array.not_mem_empty issue)
  · intro before after kept move issue told
    cases move with
    | rest | cancel | complete | skip | lack | start | leave | join => exact kept issue told
    | miss | exhaust =>
      rcases Array.mem_push.mp told with earlier | rfl
      · exact kept issue earlier
      · simp [State.budgetIssue]
    | @decode call =>
      rw [State.after_issues] at told
      split at told
      next defect _ =>
        rcases Array.mem_push.mp told with earlier | rfl
        · exact kept issue earlier
        · exact List.mem_append.mpr (.inr (complains defect _))
      next => exact kept issue told

theorem traverse_kind (seeds : List UInt64) : ∀ issue ∈ (traverse setting seeds).issues,
    issue.kind ∈ [.unresolvedAddress, .budget] ++ complaints :=
  fun issue told => moment_kind setting seeds (steps setting seeds) issue (Array.mem_toList_iff.mp told)

end Traversal

end IsaCensus
