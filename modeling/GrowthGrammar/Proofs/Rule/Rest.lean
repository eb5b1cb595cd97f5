import GrowthGrammar.Proofs.Rule.Likeness
import GrowthGrammar.Proofs.Rule.Share

/-!
Rest: a pass that touches no node. Its matches are stale from the beginning on, or all procedures
are merges of a node with itself alone. Such a pass draws nothing, cannot stop at a fault and leaves
a scene like the one before.
-/
namespace GrowthGrammar

/-! ### Procedures without effect -/

namespace Procedure

variable {b : Bindings} {p : Procedure} {procedures : List Procedure} {site : Site} {s : Scene}

/-- Without effect are the merges of one node. -/
theorem merge_of_effect (none : p.effect = 0) :
    ∃ targets survivor, p = .merge targets survivor ∧ p.references = [survivor] := by
  cases p with
  | delete target => exact absurd (congrArg Tally.removed none) Nat.one_ne_zero
  | replace target replacement => exact absurd (congrArg Tally.modified none) Nat.one_ne_zero
  | add neighbors node => exact absurd (congrArg Tally.added none) Nat.one_ne_zero
  | merge targets survivor =>
    refine ⟨targets, survivor, rfl, ?_⟩
    have nothing : (merge targets survivor).references.filter (· ≠ survivor) = [] :=
      List.length_eq_zero_iff.mp (congrArg Tally.removed none)
    have only : ∀ n ∈ (merge targets survivor).references, n = survivor := fun n named => by
      simpa using List.filter_eq_nil_iff.mp nothing n named
    refine List.perm_singleton.mp ((List.perm_ext_iff_of_nodup
      (nodup_references_merge targets survivor) (List.nodup_singleton survivor)).mpr fun n => ?_)
    rw [List.mem_singleton]
    exact ⟨only n, fun same => same ▸ survivor_mem_references targets survivor⟩

theorem no_effect_of_fates (removed : (fates [] procedures).sum.removed = 0)
    (added : (fates [] procedures).sum.added = 0)
    (modified : (fates [] procedures).sum.modified = 0) : ∀ p ∈ procedures, p.effect = 0 := by
  induction procedures with
  | nil => exact fun p member => absurd member List.not_mem_nil
  | cons p rest ih =>
    have unblocked : p.references.any (· ∈ ([] : List Int)) = false := by simp
    rw [fates, if_neg (ne_true_of_eq_false unblocked), List.sum_cons, Tally.add_eq]
      at removed added modified
    obtain ⟨own, others⟩ := Nat.add_eq_zero_iff.mp removed
    have none : p.consumed = [] := by
      rw [← List.length_eq_zero_iff, ← effect_removed]
      exact own
    rw [none, List.append_nil] at others added modified
    obtain ⟨own', others'⟩ := Nat.add_eq_zero_iff.mp added
    obtain ⟨own'', others''⟩ := Nat.add_eq_zero_iff.mp modified
    refine List.forall_mem_cons.mpr ⟨?_, ih others others' others''⟩
    have fields : p.effect =
      ⟨p.effect.removed, p.effect.added, p.effect.modified, p.effect.failures⟩ := rfl
    rw [fields, own, own', own'', p.effect_failures]
    rfl

/-- A procedure without effect takes nothing away, binds what was bound and leaves a scene like the
one before. -/
theorem apply_of_effect (none : p.effect = 0) (h : site.scene.Planted)
    (live : p.targetsLive b site.scene = true) :
    ∃ t, (p.apply b).run site = (.ok (.removed [], b), { site with scene := t }) ∧
      site.scene.Alike t ∧ t.Planted := by
  obtain ⟨targets, survivor, rfl, references⟩ := merge_of_effect none
  obtain ⟨id, found⟩ : ∃ id, b.live? site.scene survivor = some id :=
    Option.isSome_iff_exists.mp (List.all_eq_true.mp live survivor
      (survivor_mem_references targets survivor))
  have bound := (Bindings.live?_eq_some_iff.mp found).1
  have resolved : resolve site.scene b [survivor] = .ok [id] := by
    rw [resolve, List.mapM_cons, found]
    rfl
  have ran : ((merge targets survivor).apply b).run site =
      (.ok (.removed [], b), { site with scene := site.scene.collapse [id] id }) := by
    show (merge? (merge targets survivor).references survivor b).run site = _
    rw [references, merge_run h.toSound resolved bound (List.mem_singleton_self id)]
    simp
  have kept := Scene.planted_kept.apply (merge targets survivor) b site h
  rw [ran] at kept
  exact ⟨_, ran, Scene.collapse_alike h id, kept⟩

end Procedure

namespace Rule

open Procedure Scene

variable {r : Rule} {keeps : Scene → Bindings → Bool} {b : Bindings} {procedures : List Procedure}
  {start site after : Site} {s : Scene} {found : List Bindings} {result : PassResult}
  {shares : List (Option (List Outcome))}

/-! ### Passes that touch nothing -/

/-- Nothing will come of the rule: its matches are stale from the beginning on, or none of its
procedures has an effect. -/
def Resting (r : Rule) (keeps : Scene → Bindings → Bool) (s : Scene) : Prop :=
  (∀ b ∈ r.kept keeps s, r.isStale s b = true) ∨ ∀ p ∈ r.procedures, p.effect = 0

/-- What a pass does with a match when nothing comes of it. -/
def restShare (r : Rule) (s : Scene) (b : Bindings) : Option (List Outcome) :=
  if r.isStale s b then none else some (r.procedures.map fun _ => .removed [])

/-- With fewer matches the rule rests all the same. -/
theorem Resting.mono {keeps' : Scene → Bindings → Bool} {t : Scene} (rests : r.Resting keeps s)
    (alike : Alike s t) (fewer : r.kept keeps' t ⊆ r.kept keeps s) : r.Resting keeps' t := by
  refine rests.imp_left fun stale b member => ?_
  rw [alike.isStale]
  exact stale b (fewer member)

theorem stale_of_skipped (done : (r.shares found).run site = (.ok shares, after))
    (skipped : ∀ share, some share ∉ shares) : ∀ b ∈ found, r.isStale site.scene b = true := by
  induction found generalizing site shares with
  | nil => exact fun b member => absurd member List.not_mem_nil
  | cons b rest ih =>
    obtain ⟨first, later, mid, rfl, ran, ⟨stale, rfl, same⟩ | ⟨-, share, rfl, -⟩⟩ :=
      shares_cons done
    · have others := ih ran fun share member => skipped share (List.mem_cons_of_mem _ member)
      rw [same] at others
      exact List.forall_mem_cons.mpr ⟨stale, others⟩
    · exact absurd List.mem_cons_self (skipped share)

/-- A pass that has touched nothing was one of a resting rule. -/
theorem resting_of_isEmpty (sound : start.scene.Sound)
    (done : ((r.applyWhere keeps).run start).1 = .ok result) (empty : result.isEmpty = true) :
    r.Resting keeps start.scene := by
  obtain ⟨shares, after, ran, -, rfl⟩ := exists_shares done
  have begun : (r.begun keeps start).scene.Sound := sound
  by_cases applied : ∃ share, some share ∈ shares
  · -- One match to which the procedures were applied tells what they do with any.
    refine .inr ?_
    have alike {share : List Outcome} (member : some share ∈ shares) :=
      shares_tallies begun (fun _ => injective_of_mem_kept) ran member
    have multiple := PassResult.tally_recordAll {} (allOutcomes shares)
    rw [sum_allOutcomes fun _ => alike, show ({} : PassResult).tally = 0 from rfl, zero_add,
      Tally.nsmul_eq] at multiple
    have some : 0 < shares.countP (·.isSome) := by
      obtain ⟨share, member⟩ := applied
      exact List.countP_pos_iff.mpr ⟨_, member, rfl⟩
    have factor {n : Nat} (product : shares.countP (·.isSome) * n = 0) : n = 0 :=
      (Nat.mul_eq_zero.mp product).resolve_left (Nat.pos_iff_ne_zero.mp some)
    rw [PassResult.isEmpty, Bool.and_eq_true, Bool.and_eq_true, List.isEmpty_iff, List.isEmpty_iff,
      List.isEmpty_iff, ← List.length_eq_zero_iff, ← List.length_eq_zero_iff,
      ← List.length_eq_zero_iff] at empty
    obtain ⟨⟨removed, added⟩, modified⟩ := empty
    exact no_effect_of_fates
      (factor ((congrArg Tally.removed multiple).symm.trans removed))
      (factor ((congrArg Tally.added multiple).symm.trans added))
      (factor ((congrArg Tally.modified multiple).symm.trans modified))
  · have stale := stale_of_skipped ran fun share member => applied ⟨share, member⟩
    exact .inl stale

/-! ### What resting rules do -/

theorem outcomes_of_effect (none : ∀ p ∈ procedures, p.effect = 0) (h : site.scene.Planted)
    (live : ∀ p ∈ procedures, p.targetsLive b site.scene = true) :
    ∃ t, (outcomes b procedures).run site =
        (.ok (procedures.map fun _ => .removed []), { site with scene := t }) ∧
      site.scene.Alike t ∧ t.Planted := by
  induction procedures generalizing site with
  | nil => exact ⟨site.scene, rfl, .refl _, h⟩
  | cons p rest ih =>
    obtain ⟨own, others⟩ := List.forall_mem_cons.mp none
    obtain ⟨here, later⟩ := List.forall_mem_cons.mp live
    obtain ⟨t, first, alike, planted⟩ := apply_of_effect own h here
    obtain ⟨u, ran, alike', planted'⟩ :=
      @ih { site with scene := t } others planted fun q member => by
        rw [alike.targetsLive]
        exact later q member
    refine ⟨u, ?_, alike.trans alike', planted'⟩
    rw [outcomes, Work.run_bind, first]
    dsimp only
    rw [Work.run_bind, ran]
    rfl

theorem shares_of_resting (h : site.scene.Planted) (alike : Alike s site.scene)
    (rests : (∀ b ∈ found, r.isStale s b = true) ∨ ∀ p ∈ r.procedures, p.effect = 0) :
    ∃ t notes, (r.shares found).run site =
        (.ok (found.map (r.restShare s)), { site with scene := t, notes }) ∧
      Alike s t ∧ t.Planted := by
  induction found generalizing site with
  | nil => exact ⟨site.scene, site.notes, rfl, alike, h⟩
  | cons b rest ih =>
    have later : (∀ b ∈ rest, r.isStale s b = true) ∨ ∀ p ∈ r.procedures, p.effect = 0 :=
      rests.imp_left fun stale c member => stale c (List.mem_cons_of_mem _ member)
    rw [shares, SiteWork.scene_bind_run, alike.isStale, List.map_cons, restShare]
    by_cases stale : r.isStale s b = true
    · rw [if_pos stale, if_pos stale]
      obtain ⟨t, notes, ran, alike', planted⟩ :=
        @ih { site with notes := .stale r.id b :: site.notes } h alike later
      refine ⟨t, notes, ?_, alike', planted⟩
      show ((r.shares rest) >>= fun later => pure (Option.none :: later)).run
        { site with notes := .stale r.id b :: site.notes } = _
      rw [Work.run_bind, ran]
      rfl
    · rw [if_neg stale, if_neg stale]
      have none := rests.resolve_left fun all => stale (all b List.mem_cons_self)
      have live : ∀ p ∈ r.procedures, p.targetsLive b site.scene = true := fun p member => by
        rw [isStale, Bool.not_eq_true', Bool.not_eq_false, List.all_eq_true] at stale
        rw [alike.targetsLive]
        exact stale p member
      obtain ⟨u, first, alike', planted⟩ := outcomes_of_effect none h live
      obtain ⟨t, notes, ran, alike'', planted'⟩ :=
        @ih { site with scene := u } planted (alike.trans alike') later
      refine ⟨t, notes, ?_, alike'', planted'⟩
      rw [Work.run_bind, first]
      dsimp only
      rw [Work.run_bind, ran]
      rfl

theorem recordAll_nothing (result : PassResult) {outcomes : List Outcome}
    (nothing : ∀ o ∈ outcomes, o = .removed []) : result.recordAll outcomes = result := by
  induction outcomes with
  | nil => rfl
  | cons o rest ih =>
    obtain ⟨rfl, others⟩ := List.forall_mem_cons.mp nothing
    have same : result.record (.removed []) = result := by
      rw [PassResult.record, List.append_nil]
    rw [PassResult.recordAll, List.foldl_cons, same]
    exact ih others

theorem mem_restShares {o : Outcome} (s : Scene)
    (member : o ∈ allOutcomes (found.map (r.restShare s))) : o = .removed [] := by
  rw [allOutcomes, List.map_map, List.mem_flatten] at member
  obtain ⟨share, listed, inside⟩ := member
  obtain ⟨b, -, rfl⟩ := List.mem_map.mp listed
  rw [Function.comp_apply, restShare] at inside
  split at inside
  · exact absurd inside List.not_mem_nil
  · obtain ⟨p, -, same⟩ := List.mem_map.mp inside
    exact same.symm

/-- The pass of a resting rule. -/
theorem applyWhere_of_resting (h : start.scene.Planted) (rests : r.Resting keeps start.scene) :
    ∃ t notes, (r.applyWhere keeps).run start = (.ok {}, { start with scene := t, notes }) ∧
      start.scene.Alike t ∧ t.Planted ∧
      ∃ site, (r.shares (r.kept keeps start.scene)).run (r.begun keeps start) =
        (.ok ((r.kept keeps start.scene).map (r.restShare start.scene)), site) ∧
        site.scene = t := by
  have begun : (r.begun keeps start).scene.Planted := h
  obtain ⟨t, notes, ran, alike, planted⟩ :=
    shares_of_resting begun (Alike.refl (r.begun keeps start).scene) rests
  refine ⟨t, notes, ?_, alike, planted, _, ran, rfl⟩
  rw [applyWhere_begun, applyMatches_eq, map_eq_pure_bind, bind_assoc, Work.run_bind]
  rw [ran]
  dsimp only
  rw [pure_bind, recordAll_nothing {} fun o => mem_restShares _]
  rfl

end Rule

end GrowthGrammar
