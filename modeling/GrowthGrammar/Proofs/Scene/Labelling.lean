import GrowthGrammar.Proofs.Scene.Soundness
import GrowthGrammar.Scene.Fingerprint

/-!
Labelling: every node has a label in every round of a fingerprint, and the neighbours that are asked
for theirs are nodes too. So every sound scene has a fingerprint.
-/
namespace GrowthGrammar.Scene

variable {s : Scene} {labels : Labels} {digest : String → String}

/-- The nodes of the scene, and no others, have a label. -/
def Labelled (s : Scene) (labels : Labels) : Prop := ∀ id, labels.contains id = s.contains id

theorem labelOf_ok (labelled : s.Labelled labels) {id : Int} (there : s.contains id = true) :
    labelOf labels id = .ok ((labels.get? id).getD "") := by
  rw [← labelled, Catalog.contains_eq_isSome_get?] at there
  obtain ⟨label, found⟩ := Option.isSome_iff_exists.mp there
  rw [labelOf, found]
  rfl

theorem Sound.contains_of_near (h : s.Sound) {id other : Int}
    (near : other ∈ s.graph.neighborList id) : s.contains other = true := by
  rw [h.inStep]
  exact (h.consistent.hasNode_of_hasEdge ((h.consistent.mem_neighbors id other).mp near)).2

theorem nextLabel_ok (h : s.Sound) (labelled : s.Labelled labels) {id : Int}
    (there : s.contains id = true) (label : String) :
    nextLabel digest s.graph labels id label = .ok (digest (label ++ "|" ++
      sortedLine ((s.graph.neighborList id).map fun other => (labels.get? other).getD ""))) := by
  have known : s.graph.neighbors id = .ok (s.graph.neighborList id) :=
    if_pos ((h.inStep id).symm.trans there)
  have around : (s.graph.neighborList id).mapM (labelOf labels) =
      .ok ((s.graph.neighborList id).map fun other => (labels.get? other).getD "") :=
    Work.mapM_ok fun other near => labelOf_ok labelled (h.contains_of_near near)
  unfold nextLabel
  rw [known]
  show ((s.graph.neighborList id).mapM (labelOf labels) >>= _) = _
  rw [around]
  rfl

theorem nextLabels_ok (h : s.Sound) (labelled : s.Labelled labels) :
    ∃ next, nextLabels digest s.graph labels = .ok next ∧ s.Labelled next ∧
      ∀ id, s.contains id = true → next.get? id = some (digest ((labels.get? id).getD "" ++ "|" ++
        sortedLine ((s.graph.neighborList id).map fun other => (labels.get? other).getD ""))) := by
  let relabel (entry : Int × String) : Int × String := (entry.1, digest (entry.2 ++ "|" ++
    sortedLine ((s.graph.neighborList entry.1).map fun other => (labels.get? other).getD "")))
  have each : labels.entries.mapM (fun entry =>
      return (entry.1, ← nextLabel digest s.graph labels entry.1 entry.2)) =
      (.ok (labels.entries.map relabel) : Except GraphFault _) := by
    refine Work.mapM_ok fun entry member => ?_
    have there : s.contains entry.1 = true := by
      rw [← labelled, Catalog.contains_iff]
      exact List.mem_map_of_mem member
    rw [nextLabel_ok h labelled there]
    rfl
  have keys : (labels.entries.map relabel).map (·.1) = labels.keys := List.map_map
  have entries : (Catalog.ofList (labels.entries.map relabel)).entries = labels.entries.map relabel :=
    Catalog.entries_ofList (keys ▸ labels.distinct)
  refine ⟨.ofList (labels.entries.map relabel), ?_, fun id => ?_, fun id there => ?_⟩
  · unfold nextLabels
    rw [each]
    rfl
  · rw [← labelled, Bool.eq_iff_iff, Catalog.contains_iff, Catalog.contains_iff, Catalog.keys,
      entries, keys]
  · rw [← labelled, Catalog.contains_eq_isSome_get?] at there
    obtain ⟨label, found⟩ := Option.isSome_iff_exists.mp there
    rw [Catalog.get?_eq_some_iff, entries, found, Option.getD_some]
    exact List.mem_map.mpr ⟨(id, label), Catalog.get?_eq_some_iff.mp found, rfl⟩

theorem refine_ok (digest : String → String) (h : s.Sound) (labelled : s.Labelled labels)
    (rounds : Nat) :
    ∃ last, Scene.refine digest s.graph rounds labels = .ok last := by
  induction rounds generalizing labels with
  | zero => exact ⟨labels, rfl⟩
  | succ rounds ih =>
    obtain ⟨next, first, labelled', -⟩ := nextLabels_ok h labelled
    obtain ⟨last, later⟩ := ih labelled'
    refine ⟨last, ?_⟩
    rw [Scene.refine, first]
    exact later

theorem start_labelled (digest : String → String) (s : Scene) :
    s.Labelled (s.nodes.map fun node => digest (nodeText node)) := by
  intro id
  show List.any (List.map _ _) _ = _
  rw [List.any_map]
  rfl

theorem fingerprintWith_of_refine {rounds : Int}
    (ran : Scene.refine digest s.graph rounds.toNat
      (s.nodes.map fun node => digest (nodeText node)) = .ok labels) :
    s.fingerprintWith digest rounds =
      .ok (digest (s!"{s.order}:{s.graph.size}:" ++ sortedLine labels.values)) := by
  rw [fingerprintWith, ran]
  rfl

theorem fingerprint_ok (h : s.Sound) (rounds : Int) : ∃ text, s.fingerprint rounds = .ok text := by
  obtain ⟨last, ran⟩ := refine_ok Sha256.shortHex h (start_labelled _ s) rounds.toNat
  exact ⟨_, fingerprintWith_of_refine ran⟩

end GrowthGrammar.Scene
