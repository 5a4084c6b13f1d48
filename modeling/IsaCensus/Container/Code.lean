import IsaCensus.Container.Layout
import IsaCensus.Source
import IsaCensus.Issue

/-! The executable regions of a container, read from its bytes. A range that can only be
read in part gives the part that there is; one that yields nothing gives no region. Each
shortfall is one issue. -/

namespace IsaCensus

structure Extraction where
  region : Option Region := none
  issue : Option Issue := none
deriving DecidableEq, Repr

/-- What was read of a range that has its bytes at an offset of the file. -/
def MappedRange.extraction (range : MappedRange) (domain : Domain) (offset : UInt64) :
    Except ReadFault Bytes → Extraction
  | .error fault => { issue := some ⟨.regionUnreadable, range.label ++ ": " ++ fault.message⟩ }
  | .ok bytes =>
    if bytes.size = 0 then
      { issue := some ⟨.regionUnreadable, range.label ++ ": no file data at offset " ++ Text.hex offset.toNat⟩ }
    else
      { region := some { label := range.label, base := domain.normalize range.base, bytes }
        issue :=
          if bytes.size < range.length.toNat then
            some ⟨.regionTruncated, range.label ++ ": read " ++ Text.hex bytes.size ++ " of " ++
              Text.hex range.length.toNat ++ " bytes"⟩
          else none }

def MappedRange.extract (domain : Domain) (cap : UInt64) (range : MappedRange) (source : Source) :
    Extraction × Source :=
  match range.fileOffset with
  | none => ({}, source)
  | some offset =>
    let (found, source) := source.read offset (min range.length cap)
    (range.extraction domain offset found, source)

theorem MappedRange.length_extract {domain : Domain} {cap : UInt64} {range : MappedRange} {source : Source}
    {region : Region} (found : (range.extract domain cap source).1.region = some region) :
    region.length ≤ cap.toNat := by
  unfold extract at found
  cases place : range.fileOffset with
  | none => simp [place] at found
  | some offset =>
    simp only [place, extraction] at found
    split at found
    next => cases found
    next bytes granted =>
      split at found
      next => cases found
      next =>
        cases found
        have asked : (min range.length cap).toNat ≤ cap.toNat := UInt64.le_iff_toNat_le.mp Std.min_le_right
        rw [Region.length, ← Source.read_eq_window granted, Bytes.size_window]
        omega

/-- The regions that were read so far, with the log and the source as the next range finds them. -/
structure Resolution where
  regions : Array Region := #[]
  log : IssueLog
  source : Source
deriving Repr

def Resolution.read (domain : Domain) (cap : UInt64) (resolution : Resolution) (range : MappedRange) : Resolution :=
  let (found, source) := range.extract domain cap resolution.source
  { regions := found.region.elim resolution.regions resolution.regions.push
    log := resolution.log.note found.issue
    source }

/-- Reads the executable ranges one after the other. -/
def Layout.resolve (layout : Layout) (config : Config) (log : IssueLog) (source : Source) :
    List Region × IssueLog × Source :=
  let resolution := layout.code.2.foldl (Resolution.read layout.domain config.maxRegionBytes) { log, source }
  (resolution.regions.toList, resolution.log, resolution.source)

end IsaCensus
