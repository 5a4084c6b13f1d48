/-! What can be set for a census. -/

namespace IsaCensus

/-- Limits on reading a file. -/
structure ReadLimits where
  maxFileSize : UInt64 := 536870912
  maxReadBytes : UInt64 := 1073741824
deriving DecidableEq, Repr

/-- The sources of seeds that are asked. The entry point always is one. -/
structure SeedToggles where
  pointerArrays : Bool := true
  symbols : Bool := true
  unwindTables : Bool := true
  extraEntryPoints : Bool := true
deriving DecidableEq, Repr

structure Config where
  io : ReadLimits := {}
  maxRegionBytes : UInt64 := 67108864
  maxIssues : UInt64 := 200
  yieldInterval : UInt64 := 4096
  maxInstructions : Option UInt64 := none
  maxPointerArrayEntries : UInt64 := 65536
  maxUnwindEntries : UInt64 := 1048576
  extraEntryPoints : List UInt64 := []
  sources : SeedToggles := {}
deriving DecidableEq, Repr

namespace Config

def addEntryPoint (config : Config) (address : UInt64) : Config :=
  { config with extraEntryPoints := config.extraEntryPoints ++ [address] }

def limitInstructions (config : Config) (limit : UInt64) : Config :=
  { config with maxInstructions := some limit }

end Config

end IsaCensus
