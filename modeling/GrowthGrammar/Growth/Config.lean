import GrowthGrammar.Data.Number

/-!
Configurations: how long a graph grows and what is done along the way.
-/
namespace GrowthGrammar

/-- A limit on the number of nodes, as it was given. Whether it is a number shows when it is first
needed. -/
structure SizeLimit where
  given : Data

namespace SizeLimit

def order (limit : SizeLimit) : Except NumberFault Int := limit.given.toInteger

end SizeLimit

structure GrowthConfig where
  maxIterations : Int := 10
  maxOrder : Option SizeLimit := none
  advancesClock : Bool := true
  skipsDirty : Bool := false
  stopsWhenQuiet : Bool := true
  recordsFingerprints : Bool := true

namespace GrowthConfig

def usual : GrowthConfig := {}

def minimal : GrowthConfig := { maxIterations := 1, recordsFingerprints := false }

def standard : GrowthConfig :=
  { maxIterations := 25, maxOrder := some ⟨.int 500⟩, skipsDirty := true }

def research : GrowthConfig :=
  { maxIterations := 200, maxOrder := some ⟨.int 10000⟩, skipsDirty := true,
    stopsWhenQuiet := false }

def ofName? : String → Option GrowthConfig
  | "DEFAULT_GROWTH_CONFIG" => some usual
  | "PRESET_MINIMAL" => some minimal
  | "PRESET_STANDARD" => some standard
  | "PRESET_RESEARCH" => some research
  | _ => none

/-- The fields by the alphabetical order of their names. -/
def fields (c : GrowthConfig) : List (String × Data) :=
  [("advance_generation", .bool c.advancesClock),
    ("max_iterations", .int c.maxIterations),
    ("max_order", match c.maxOrder with
      | some limit => limit.given
      | none => .null),
    ("record_fingerprints", .bool c.recordsFingerprints),
    ("skip_dirty_matches", .bool c.skipsDirty),
    ("stop_on_quiescence", .bool c.stopsWhenQuiet)]

/-- The configuration of some fields. Fields that are not given are as usual, and others do not
count. -/
def ofFields (given : List (Data × Data)) : Except NumberFault GrowthConfig := do
  let flag (name : String) (usual : Bool) : Bool :=
    ((Data.entry? given name).getD (.bool usual)).isTruthy
  let iterations := (Data.entry? given "max_iterations").getD (.int usual.maxIterations)
  let maxIterations ← iterations.toInteger
  return {
    maxIterations
    maxOrder := match Data.entry? given "max_order" with
      | none | some .null => none
      | some limit => some ⟨limit⟩
    advancesClock := flag "advance_generation" usual.advancesClock
    skipsDirty := flag "skip_dirty_matches" usual.skipsDirty
    stopsWhenQuiet := flag "stop_on_quiescence" usual.stopsWhenQuiet
    recordsFingerprints := flag "record_fingerprints" usual.recordsFingerprints }

end GrowthConfig

end GrowthGrammar
