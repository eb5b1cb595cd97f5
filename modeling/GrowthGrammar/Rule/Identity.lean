import GrowthGrammar.Data
import GrowthGrammar.Random.Streams

/-!
Identities of rules: what a rule is called in notes and in saved data, and what names the stream
that it draws from. Any datum may be the id of a rule; it is written out where it is needed.
-/
namespace GrowthGrammar

/-- A rule whose author gives it no id gets one of its own, which is never shown. -/
inductive RuleId where
  | given (id : Data)
  | generated

/-- Why a rule has no stream of its own. -/
inductive RuleIdFault where
  | number (fault : NumberFault)
  | encoding (fault : Spelling.EncodingFault)

def RuleIdFault.message : RuleIdFault → String
  | .number fault => fault.message
  | .encoding fault => fault.message

namespace RuleId

/-- The id written out, unless there is an integer of too many digits in it. -/
def text : RuleId → Except NumberFault Spelling
  | .given id => id.toText
  | .generated => .ok "<uuid>"

/-- The context of the rule's own stream. It is encoded behind the common seed, which counts where
its encoding fails. -/
def context (id : RuleId) (seed : Int) : Except RuleIdFault String := do
  match ← id.text.mapError .number with
  | .plain text => return Streams.ruleContext text
  | text =>
    let encoded := Spelling.plain (s!"{seed}:" ++ Streams.ruleContext "") ++ text
    throw (.encoding (.ofPoints encoded.points))

end RuleId

end GrowthGrammar
