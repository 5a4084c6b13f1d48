import IsaCensus.Decode.Scripted
import IsaCensus.Json.Quoting
import IsaCensus.Main
import IsaCensus.Proofs.X86Laws
import IsaCensus.Proofs.TraversalBounds
import IsaCensus.Proofs.TraversalPlaces
import IsaCensus.Proofs.TraversalReach
import IsaCensus.Proofs.TraversalBudgets
import IsaCensus.Proofs.TraversalProgress
import IsaCensus.Proofs.RegionOrder
import IsaCensus.Proofs.BoundedReads
import IsaCensus.Proofs.SeedIsolation
import IsaCensus.Proofs.SeedsDecoded
import IsaCensus.Proofs.FrameHeaders
import IsaCensus.Proofs.TableCuts
import IsaCensus.Proofs.TableEndings
import IsaCensus.Proofs.RegionReads
import IsaCensus.Proofs.Sampling
import IsaCensus.Proofs.Excerpts
import IsaCensus.Proofs.AddressMaps
import IsaCensus.Proofs.SymbolSeeds
import IsaCensus.Proofs.PointerWords
import IsaCensus.Proofs.ThreadCallbacks
import IsaCensus.Proofs.Observers
import IsaCensus.Proofs.EntryPoint
import IsaCensus.Proofs.SymbolGroups
import IsaCensus.Proofs.ReportDrafts
import IsaCensus.Proofs.AddressLiterals
import IsaCensus.Proofs.CursorCalls
import IsaCensus.Proofs.ConfigTexts
import IsaCensus.Proofs.ReportTexts
