import GrowthGrammar.Rule.Basic

/-!
Passes: a rule applied to every match in a scene. All matches are found before anything is done with
the first of them; a match that has lost a node by then is skipped as a whole.
-/
namespace GrowthGrammar.Rule

/-- Does the procedures with a match, one after the other. -/
def applyProcedures (b : Bindings) (result : PassResult) : List Procedure → SiteWork PassResult
  | [] => pure result
  | p :: rest => do
    let (outcome, b) ← p.apply b
    applyProcedures b (result.record outcome) rest

def applyMatches (r : Rule) (result : PassResult) : List Bindings → SiteWork PassResult
  | [] => pure result
  | b :: rest => do
    if r.isStale (← SiteWork.scene) b then
      SiteWork.note (.stale r.id b)
      r.applyMatches result rest
    else
      r.applyMatches (← applyProcedures b result r.procedures) rest

/-- The matches in the scene of the site, noted as they are found. -/
def findMatches (r : Rule) : SiteWork (List Bindings) := do
  let s ← SiteWork.scene
  let m := r.matcher s
  let (found, after) := m.rest s
  (m.notes after found).forM fun note => SiteWork.note (.search note)
  return found

/-- Applies the rule to every match that the filter keeps. The filter sees the scene as it is when
the matches are found. -/
def applyWhere (r : Rule) (keeps : Scene → Bindings → Bool) : SiteWork PassResult := do
  let found ← r.findMatches
  let kept := found.filter (keeps (← SiteWork.scene))
  SiteWork.note (.matches r.id kept.length)
  let result ← r.applyMatches {} kept
  if !result.isEmpty then SiteWork.note (.changed r.id result.tally)
  return result

def apply (r : Rule) : SiteWork PassResult := r.applyWhere fun _ _ => true

end GrowthGrammar.Rule
