import GrowthGrammar.Graph.Catalog
import GrowthGrammar.Random.Sha256
import GrowthGrammar.Random.Source

/-!
Streams: independent random numbers for every context. The seed of a stream comes from the common
seed and the name of the context alone, so no stream depends on the others.
-/
namespace GrowthGrammar

/-- The streams that were asked for, in that order. -/
structure Streams where
  seed : Int
  contexts : Catalog String Twister := .empty

namespace Streams

def ofSeed (seed : Int) : Streams := { seed }

/-- The stream of a context before its first draw. -/
def fresh (seed : Int) (context : String) : Twister :=
  .ofSeed (Sha256.leading64 s!"{seed}:{context}")

/-- The stream of a context where it stands. -/
def stream (s : Streams) (context : String) : Twister :=
  match s.contexts.get? context with
  | some t => t
  | none => fresh s.seed context

/-- Notes where the stream of a context stands. -/
def setStream (s : Streams) (context : String) (t : Twister) : Streams :=
  { s with contexts := s.contexts.put context t }

/-- Starts the stream of a context, unless it is there. -/
def start (s : Streams) (context : String) : Streams := s.setStream context (s.stream context)

def draw (s : Streams) (context : String) : Double × Streams :=
  let (x, t) := (s.stream context).draw
  (x, s.setStream context t)

def ruleContext (ruleId : String) : String := s!"rule:{ruleId}"

def source (s : Streams) (context : String) : Source := .stream (s.stream context)

/-- Notes where the stream of a context stands after it was used as a source. -/
def setSource (s : Streams) (context : String) : Source → Streams
  | .stream t => s.setStream context t
  | .unseeded => s

/-! ### Streams that are kept for later -/

/-- What is kept of streams: the common seed and where the stream of every context stands. -/
structure Saved where
  seed : Int
  contexts : List (String × Twister) := []

def saved (s : Streams) : Saved := ⟨s.seed, s.contexts.entries⟩

/-- Puts the streams to where they stood when they were saved. Contexts that were not saved start
anew, from the seed that was. -/
def restore (s : Streams) (kept : Saved) : Streams :=
  { s with seed := kept.seed, contexts := .ofList kept.contexts }

end Streams

end GrowthGrammar
