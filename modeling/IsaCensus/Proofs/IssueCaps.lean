import Mathlib.Data.List.Induction
import IsaCensus.Decode.X86.Table
import IsaCensus.Proofs.IssueKinds
import IsaCensus.Proofs.SeedFilter
import IsaCensus.Proofs.TraversalLogs

/-! The cap on issues. The log goes through every phase of a census, but no phase looks into it. So a
census raises the same issues under every cap and finds the same things besides; the cap only decides
how many of the issues are shown, and the rest are counted in one last entry. That entry is the only
one of its kind, because nothing that a census finds is told that way. -/

namespace IsaCensus

namespace IssueLog

/-- A log keeps the first issues and counts the others. -/
theorem record_eq (cap : Nat) (issues : List Issue) : record cap issues =
    { cap, kept := (issues.take cap).toArray, suppressed := issues.length - cap } := by
  induction issues using List.reverseRecOn with
  | nil => simp [record]
  | append_singleton issues issue ih =>
    rw [record_append, List.foldl_cons, List.foldl_nil, ih, push]
    simp only [List.size_toArray, List.length_take, List.length_append, List.length_singleton]
    split
    next room =>
      have short : issues.length < cap := by omega
      have one : issues.length + 1 ≤ cap := short
      simp [List.take_of_length_le, short, one, Nat.le_of_lt]
    next full =>
      have long : cap ≤ issues.length := by omega
      rw [List.take_append_of_le_length long, Nat.sub_add_comm long]

end IssueLog

namespace Issue

/-- An issue of its own, which does not stand for others. -/
def Plain (issue : Issue) : Prop := issue.kind ≠ .suppressed

/-- The issues up to a cap, and the number of those that are left out. -/
def cut (cap : Nat) (issues : List Issue) : List Issue :=
  if issues.length ≤ cap then issues
  else issues.take cap ++ [⟨.suppressed, toString (issues.length - cap) ++ " additional diagnostics suppressed"⟩]

theorem finish_record (cap : Nat) (issues : List Issue) : (IssueLog.record cap issues).finish = cut cap issues := by
  rw [IssueLog.record_eq, IssueLog.finish, cut]
  by_cases within : issues.length ≤ cap
  · rw [if_pos within, if_pos (Nat.sub_eq_zero_of_le within)]
    exact List.take_of_length_le within
  · have dropped : issues.length - cap ≠ 0 := by omega
    rw [if_neg within, if_neg dropped]

theorem length_cut (cap : Nat) (issues : List Issue) : (cut cap issues).length ≤ cap + 1 := by
  rw [cut]
  split
  next within => omega
  next =>
    rw [List.length_append, List.length_take, List.length_singleton]
    omega

theorem head?_cut {cap : Nat} (room : 0 < cap) (issues : List Issue) :
    (cut cap issues).head? = issues.head? := by
  rw [cut]
  split
  next => rfl
  next long =>
    have kept : (issues.take cap).head? = issues.head? := by
      rw [List.head?_take, if_neg (Nat.ne_of_gt room)]
    cases issues with
    | nil => exact absurd (Nat.zero_le cap) long
    | cons first others => rw [List.head?_append, kept]; rfl

theorem mem_cut {cap : Nat} {issues : List Issue} {issue : Issue} (shown : issue ∈ cut cap issues) :
    issue ∈ issues ∨ issue.kind = .suppressed := by
  rw [cut] at shown
  split at shown
  next => exact .inl shown
  next =>
    rcases List.mem_append.mp shown with kept | counted
    · exact .inl (List.mem_of_mem_take kept)
    · cases List.mem_singleton.mp counted
      exact .inr rfl

theorem mem_of_mem_dropLast_cut {cap : Nat} {issues : List Issue} {issue : Issue}
    (shown : issue ∈ (cut cap issues).dropLast) : issue ∈ issues := by
  rw [cut] at shown
  split at shown
  next => exact List.mem_of_mem_dropLast shown
  next =>
    rw [List.dropLast_concat] at shown
    exact List.mem_of_mem_take shown

end Issue

/-- What a log of so many entries shows in the end of the issues that were raised. -/
structure Issue.ShownUnder (cap : Nat) (raised shown : List Issue) : Prop where
  cut : shown = Issue.cut cap raised
  within : shown.length ≤ cap + 1
  plain : ∀ issue ∈ raised, issue.Plain
  only_last : ∀ issue ∈ shown.dropLast, issue.Plain

theorem Issue.shownUnder_cut {raised : List Issue} (plain : ∀ issue ∈ raised, issue.Plain) (cap : Nat) :
    ShownUnder cap raised (cut cap raised) where
  cut := rfl
  within := length_cut cap raised
  plain := plain
  only_last issue shown := plain issue (mem_of_mem_dropLast_cut shown)

namespace Layout

/-- The issues of the executable ranges, and then those of the sources of seeds. -/
def foundIssues (layout : Layout) (config : Config) (source : Source) : List Issue :=
  let (found, source) := layout.regions config source
  let (seeds, _) := layout.seeds config found.regions source
  found.issues ++ seeds.issues

/-- The issues that a traversal of a container raises when its log keeps none of them. -/
def traversalIssues {κ φ : Type} [DecidableEq φ] (layout : Layout) (decoder : Decoder κ φ) (config : Config)
    (control : Control) (source : Source) : List Issue :=
  let (found, source) := layout.regions config source
  let (seeds, _) := layout.seeds config found.regions source
  (traverse (layout.setting decoder config control found.regions { cap := 0 }) seeds.set.addresses).issues

/-- Every issue that a census raises, in the order of its phases. -/
def raised {κ φ : Type} [DecidableEq φ] (layout : Layout) (decoder : Decoder κ φ) (config : Config)
    (control : Control) (source : Source) : List Issue :=
  layout.foundIssues config source ++ layout.traversalIssues decoder config control source

/-- Every issue that an analysis raises. If there is no decoder, that comes first. -/
def analysisRaised {φ : Type} [DecidableEq φ] (layout : Layout) (engine : X86.Engine φ) (config : Config)
    (control : Control) (source : Source) : List Issue :=
  match X86.modeFor layout with
  | .ok mode => layout.raised (engine.decoder mode) config control source
  | .error reason => ⟨.unsupportedArchitecture, reason.message⟩ :: layout.foundIssues config source

theorem foundIssues_plain (layout : Layout) (config : Config) (source : Source) :
    ∀ issue ∈ layout.foundIssues config source, issue.Plain :=
  fun issue told same => absurd (same ▸ layout.groundwork_kind config source issue told) (by decide)

section Sample
variable {κ φ : Type} [DecidableEq φ] (layout : Layout) (decoder : Decoder κ φ) (name : φ → String)
  (config : Config) (control : Control) (source : Source)

theorem raised_plain : ∀ issue ∈ layout.raised decoder config control source, issue.Plain := by
  intro issue told
  rcases List.mem_append.mp told with before | during
  · exact layout.foundIssues_plain config source issue before
  · intro same
    exact absurd (same ▸ Traversal.traverse_kind _ _ issue during) (by decide)

/-- The log that a traversal is handed has no part in what it raises. -/
theorem sample_run_issues : (layout.sample decoder name config control source).1.run.issues =
    layout.traversalIssues decoder config control source := by
  rw [sample_run]
  exact (congrArg Traversal.issues (Traversal.traverse_logging _ { cap := 0 } _)).symm

theorem sample_issues : (layout.sample decoder name config control source).1.report.issues =
    Issue.cut config.maxIssues.toNat (layout.raised decoder config control source) := by
  have shown : (layout.sample decoder name config control source).1.report.issues =
      (layout.sample decoder name config control source).1.run.log.finish := by
    rw [sample_eq]
    rfl
  have log : (layout.sample decoder name config control source).1.run.log =
      (layout.sample decoder name config control source).1.run.issues.foldl IssueLog.push
        (.record config.maxIssues.toNat (layout.foundIssues config source)) := by
    rw [sample_run]
    exact Traversal.traverse_log _ _
  rw [shown, log, sample_run_issues, ← IssueLog.record_append]
  exact Issue.finish_record _ _

/-- Under another cap, a census is the same but for the issues shown and the log behind them. -/
theorem sample_capped (cap : UInt64) :
    let whole := layout.sample decoder name config control source
    let capped := layout.sample decoder name { config with maxIssues := cap } control source
    capped = ({ report := { whole.1.report with issues := capped.1.report.issues }
                run := { whole.1.run with log := capped.1.run.log } }, whole.2) := by
  intro whole capped
  let ground := (layout.groundwork config source).1
  let setting := layout.setting decoder config control ground.regions (.record config.maxIssues.toNat ground.issues)
  let log := IssueLog.record cap.toNat ground.issues
  let reported (run : Traversal φ) : Census φ × Source :=
    ({ report := ((((layout.draft ground).addTraversal name run.totals run.outcome).setSeeds
        ground.seeds.summary).setIssues run.log).build
       run }, (layout.groundwork config source).2)
  have one : whole = reported (traverse setting ground.seeds.addresses) :=
    layout.sample_eq decoder name config control source
  have other : capped = reported (traverse (setting.logging log) ground.seeds.addresses) :=
    layout.sample_eq decoder name { config with maxIssues := cap } control source
  rw [other, one, Traversal.traverse_logging]
  rfl

/-- Under another cap, a survey is the same but for the issues shown. -/
theorem survey_capped (reason : Fault) (cap : UInt64) :
    let whole := layout.survey config reason source
    let capped := layout.survey { config with maxIssues := cap } reason source
    capped = ({ whole.1 with issues := capped.1.issues }, whole.2) := by
  intro whole capped
  simp only [whole, capped, survey_eq]
  rfl

theorem survey_issues (reason : Fault) : (layout.survey config reason source).1.issues =
    Issue.cut config.maxIssues.toNat
      (⟨.unsupportedArchitecture, reason.message⟩ :: layout.foundIssues config source) := by
  rw [survey_eq]
  exact Issue.finish_record _ _

end Sample

section Analyze
variable {φ : Type} [DecidableEq φ] (layout : Layout) (engine : X86.Engine φ) (config : Config) (control : Control)
  (source : Source)

theorem analysisRaised_plain : ∀ issue ∈ layout.analysisRaised engine config control source, issue.Plain := by
  unfold analysisRaised
  cases X86.modeFor layout with
  | ok mode => exact layout.raised_plain (engine.decoder mode) config control source
  | error reason =>
    intro issue told
    rcases List.mem_cons.mp told with rfl | before
    · exact fun same => nomatch same
    · exact layout.foundIssues_plain config source issue before

theorem analyze_issues : (layout.analyze engine config control source).1.1.issues =
    Issue.cut config.maxIssues.toNat (layout.analysisRaised engine config control source) := by
  unfold analyze analysisRaised
  cases X86.modeFor layout with
  | ok mode => exact layout.sample_issues (engine.decoder mode) engine.name config control source
  | error reason => exact layout.survey_issues config source reason

theorem analyze_capped (cap : UInt64) :
    let whole := layout.analyze engine config control source
    let capped := layout.analyze engine { config with maxIssues := cap } control source
    capped = (({ whole.1.1 with issues := capped.1.1.issues }, whole.1.2), whole.2) := by
  unfold analyze
  cases X86.modeFor layout with
  | ok mode =>
    have same := layout.sample_capped (engine.decoder mode) engine.name config control source cap
    exact congrArg (fun census => ((census.1.report, census.1.run.progress), census.2)) same
  | error reason =>
    have same := layout.survey_capped config source reason cap
    exact congrArg (fun survey => ((survey.1, ([] : List Snapshot)), survey.2)) same

end Analyze

/-- The cap on issues changes nothing but how many issues a report shows. Under any two caps a census is
the same run with the same report, but for the issues shown and the log behind them, and it leaves
its source alike. Under either cap the issues shown are those that the phases raise, which do not depend
on the cap, cut off at the cap. This holds with every decoder, and when there is none. -/
theorem cap_only_cuts_issues {κ φ ψ : Type} [DecidableEq φ] [DecidableEq ψ] (layout : Layout) (decoder : Decoder κ φ)
    (name : φ → String) (engine : X86.Engine ψ) (config : Config) (control : Control) (source : Source)
    (cap : UInt64) :
    let other : Config := { config with maxIssues := cap }
    (let whole := layout.sample decoder name config control source
      let capped := layout.sample decoder name other control source
      capped = ({ report := { whole.1.report with issues := capped.1.report.issues }
                  run := { whole.1.run with log := capped.1.run.log } }, whole.2) ∧
      Issue.ShownUnder cap.toNat (layout.raised decoder config control source) capped.1.report.issues) ∧
    (let whole := layout.analyze engine config control source
      let capped := layout.analyze engine other control source
      capped = (({ whole.1.1 with issues := capped.1.1.issues }, whole.1.2), whole.2) ∧
      Issue.ShownUnder cap.toNat (layout.analysisRaised engine config control source) capped.1.1.issues) := by
  intro other
  refine ⟨⟨layout.sample_capped decoder name config control source cap, ?_⟩,
    ⟨layout.analyze_capped engine config control source cap, ?_⟩⟩
  · rw [layout.sample_issues decoder name other control source]
    exact Issue.shownUnder_cut (layout.raised_plain decoder config control source) cap.toNat
  · rw [layout.analyze_issues engine other control source]
    exact Issue.shownUnder_cut (layout.analysisRaised_plain engine config control source) cap.toNat

/-- Code of which one byte of four is there, and an array at an address that nothing is mapped to. -/
def halved : Layout where
  format := .elf
  architecture := .x86_64
  entry := 0x1000
  sections := [{ label := ".text", base := 0x1000, fileOffset := some 0, length := 4, permissions.execute := true }]
  pointerArrays := [{ name := ".init_array", address := 0x9000 }]

def halvedSource : Source := .memory #[0xc3]

/-- Nothing may be decoded, and so many issues may be shown. -/
def halvedConfig (cap : UInt64) : Config := { maxInstructions := some 0, maxIssues := cap }

/-- One issue for each phase: the code is cut off, the array cannot be found, and the traversal has a seed
and no budget. -/
def halvedIssues : List Issue :=
  [⟨.regionTruncated, ".text: read 0x1 of 0x4 bytes"⟩,
    ⟨.seedSource, ".init_array: address 0x9000 has no file data"⟩,
    ⟨.budget, "instruction budget of 0 reached"⟩]

/-- The one byte of code that there is. -/
def halvedRegion : Region := { label := ".text", base := 0x1000, bytes := #[0xc3] }

theorem halved_regions : (halved.regions (halvedConfig 512) halvedSource).1.regions = [halvedRegion] := by
  decide +kernel

theorem halved_seeds (source : Source) :
    (halved.seeds (halvedConfig 512) [halvedRegion] source).1.set.addresses = [0x1000] :=
  (SeedSet.collect_addresses _ _).trans rfl

theorem halved_traversalIssues :
    halved.traversalIssues (X86.tables.decoder .bits64) (halvedConfig 512) {} halvedSource =
      [⟨.budget, "instruction budget of 0 reached"⟩] := by
  let setting := halved.setting (X86.tables.decoder .bits64) (halvedConfig 512) {} [halvedRegion] { cap := 0 }
  let cursor : X86.Cursor := { mode := .bits64, bytes := #[0xc3], base := 0x1000, pointer := 0x1000 }
  have here : setting.space.resolve (Traversal.normalize setting 0x1000) = some ⟨0, 0⟩ := by decide +kernel
  have first : Traversal.moment setting [0x1000] 1 = _ := (Traversal.moment_succ setting [0x1000] 0).trans
    (Traversal.State.step_of_start setting rfl rfl rfl Std.HashSet.not_mem_empty here rfl rfl)
  have ahead : (Traversal.moment setting [0x1000] 1).ahead? setting = some ⟨0, 0x1000, cursor⟩ := by
    rw [first]
    exact (Traversal.State.ahead_eq_some setting).mpr ⟨rfl, rfl, rfl⟩
  have halt : (Traversal.moment setting [0x1000] 1).Halt setting .budgetExhausted := by
    refine .exhausted ahead ?_ ?_ <;> rw [first] <;> rfl
  have silent : (Traversal.moment setting [0x1000] 1).issues = #[] := by
    rw [first]
    rfl
  have told : Traversal.State.budgetIssue setting = ⟨.budget, "instruction budget of 0 reached"⟩ := by decide +kernel
  have raised : (traverse setting [0x1000]).issues = [⟨.budget, "instruction budget of 0 reached"⟩] := by
    rw [Traversal.traverse_of_halt setting halt]
    simp only [silent, told, if_true, List.nil_append]
  simp only [traversalIssues, halved_regions, halved_seeds]
  exact raised

theorem halved_issues_cut :
    halved.raised (X86.tables.decoder .bits64) (halvedConfig 512) {} halvedSource = halvedIssues ∧
    (halved.sample (X86.tables.decoder .bits64) X86.tables.name (halvedConfig 1) {} halvedSource).1.report.issues =
      [⟨.regionTruncated, ".text: read 0x1 of 0x4 bytes"⟩, ⟨.suppressed, "2 additional diagnostics suppressed"⟩] ∧
    (halved.analyze X86.tables (halvedConfig 3) {} halvedSource).1.1.issues = halvedIssues ∧
    (halved.analyze X86.tables (halvedConfig 0) {} halvedSource).1.1.issues =
      [⟨.suppressed, "3 additional diagnostics suppressed"⟩] := by
  have found : halved.foundIssues (halvedConfig 512) halvedSource = halvedIssues.take 2 := by decide +kernel
  have raised : halved.raised (X86.tables.decoder .bits64) (halvedConfig 512) {} halvedSource = halvedIssues := by
    rw [Layout.raised, found, halved_traversalIssues]
    rfl
  have analyzed : halved.analysisRaised X86.tables (halvedConfig 512) {} halvedSource = halvedIssues := raised
  have cuts (cap : UInt64) := halved.cap_only_cuts_issues (X86.tables.decoder .bits64) X86.tables.name X86.tables
    (halvedConfig 512) {} halvedSource cap
  have sampled (cap : UInt64) : (halved.sample (X86.tables.decoder .bits64) X86.tables.name (halvedConfig cap) {}
      halvedSource).1.report.issues = Issue.cut cap.toNat halvedIssues := by
    rw [← raised]
    exact (cuts cap).1.2.cut
  have shown (cap : UInt64) : (halved.analyze X86.tables (halvedConfig cap) {} halvedSource).1.1.issues =
      Issue.cut cap.toNat halvedIssues := by
    rw [← analyzed]
    exact (cuts cap).2.2.cut
  exact ⟨raised, (sampled 1).trans (by decide), (shown 3).trans (by decide), (shown 0).trans (by decide)⟩

end Layout

end IsaCensus
