import GrowthGrammar.Pattern.Matcher
import GrowthGrammar.Rule.Identity
import GrowthGrammar.Rule.Outcome

/-!
Notes: what is told about a growth while it goes on.
-/
namespace GrowthGrammar

inductive NoteLevel where
  | debug
  | info
  | warning
  deriving DecidableEq

namespace NoteLevel

def name : NoteLevel → String
  | .debug => "DEBUG"
  | .info => "INFO"
  | .warning => "WARNING"

def ofName? (name : String) : Option NoteLevel :=
  [debug, info, warning].find? fun level => level.name = name

def rank : NoteLevel → Nat
  | .debug => 0
  | .info => 1
  | .warning => 2

end NoteLevel

/-- Procedures are named by their kinds. Taking a note never fails: that the interpreter writes every
note out at once, wanted or not, and stops at an integer of more than `Numeral.maxDigits` digits in
it, is left out here. -/
inductive Note where
  | search (note : SearchNote)
  | matches (rule : RuleId) (count : Nat)
  | stale (rule : RuleId) (b : Bindings)
  | changed (rule : RuleId) (tally : Tally)
  | unbound (procedure : String) (patternId : Int) (b : Bindings)
  | noNeighbor (patternId : Int) (b : Bindings)
  | sizeReached (order : Nat) (limit : Data)
  | quiescence

namespace Note

def level : Note → NoteLevel
  | .search _ | .matches .. | .stale .. => .debug
  | .changed .. | .sizeReached .. | .quiescence => .info
  | .unbound .. | .noNeighbor .. => .warning

/-- What is told about a rule. -/
def ofRule (rule : RuleId) (told : String) : Except NumberFault Spelling := do
  return .plain "Rule " ++ (← rule.text) ++ .plain (": " ++ told)

def text : Note → Except NumberFault Spelling
  | .search note => .ok note.text
  | .matches rule count => ofRule rule s!"{count} match(es)"
  | .stale rule b => ofRule rule s!"skipping stale match {b.text}"
  | .changed rule tally => ofRule rule tally.text
  | .unbound procedure patternId b =>
    .ok s!"{procedure}: pattern node {patternId} is not bound to a live node in {b.text}"
  | .noNeighbor patternId b =>
    .ok s!"Add: could not find neighbor {patternId} in bindings {b.text}"
  | .sizeReached order limit => do
    return .plain s!"Graph reached {order} nodes (max_order=" ++ (← limit.toText) ++
      .plain "). Stopping."
  | .quiescence => .ok "Quiescence: no rule changed the graph"

/-- The note as a line, if it is one of the level or above. -/
def line? (level : NoteLevel) (note : Note) : Option (Except NumberFault Spelling) :=
  if level.rank ≤ note.level.rank then
    some (note.text.map fun text => .plain (note.level.name ++ ":") ++ text)
  else none

end Note

end GrowthGrammar
