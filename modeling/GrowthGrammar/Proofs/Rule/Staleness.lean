import GrowthGrammar.Proofs.Rule.Account
import GrowthGrammar.Proofs.Search.Orbit

/-!
Stale matches: a match is skipped as a whole if one of the nodes that it is to change or to use has
been taken away since the matches were found, and has not been given again. Ids from the counter
are never given again; an id of the caller's choice may be.
-/
namespace GrowthGrammar

namespace PassResult

/-- The result of a pass goes on with nodes taken away and given. -/
def Extends (before after : PassResult) (removed added : List Int) : Prop :=
  after.removed = before.removed ++ removed ∧ after.added = before.added ++ added

theorem extends_refl (r : PassResult) : r.Extends r [] [] :=
  ⟨(List.append_nil _).symm, (List.append_nil _).symm⟩

theorem Extends.trans {r t u : PassResult} {removed removed' added added' : List Int}
    (h : r.Extends t removed added) (h' : t.Extends u removed' added') :
    r.Extends u (removed ++ removed') (added ++ added') := by
  constructor
  · rw [h'.1, h.1, List.append_assoc]
  · rw [h'.2, h.2, List.append_assoc]

theorem extends_record (r : PassResult) (o : Outcome) :
    r.Extends (r.record o) o.removedIds o.addedIds := by
  cases o with
  | removed ids => exact ⟨rfl, (List.append_nil _).symm⟩
  | added ids => exact ⟨(List.append_nil _).symm, rfl⟩
  | _ => exact ⟨(List.append_nil _).symm, (List.append_nil _).symm⟩

end PassResult

namespace Rule

open SiteWork

/-! ### What a pass accounts for -/

theorem applyProcedures_accounts {b : Bindings} {start : Site} (procedures : List Procedure)
    (result : PassResult) (injective : b.values.Nodup) (inStep : start.scene.InStep) :
    (applyProcedures b result procedures).Accounts start result.Extends := by
  induction procedures generalizing b start result with
  | nil => exact accounts_pure inStep result.extends_refl
  | cons p rest ih =>
    refine (p.apply_accounts injective inStep).bind ?_
    rintro ⟨o, b'⟩ _ _ t ⟨rfl, rfl, fewer⟩ inStep
    refine (ih (result.record o) (injective.sublist fewer) inStep).imp fun _ _ _ later => ?_
    exact (result.extends_record o).trans later

theorem applyMatches_accounts {start : Site} (r : Rule) {found : List Bindings}
    (result : PassResult) (injective : ∀ b ∈ found, b.values.Nodup)
    (inStep : start.scene.InStep) :
    (r.applyMatches result found).Accounts start result.Extends := by
  induction found generalizing start result with
  | nil => exact accounts_pure inStep result.extends_refl
  | cons b rest ih =>
    have injective' : ∀ c ∈ rest, c.values.Nodup := fun c member =>
      injective c (List.mem_cons_of_mem _ member)
    apply accounts_scene_bind
    split
    · exact (quiet_note _).bind_accounts inStep fun _ _ _ inStep => ih result injective' inStep
    · refine (applyProcedures_accounts r.procedures result
        (injective b List.mem_cons_self) inStep).bind ?_
      intro result' removed added t before inStep
      exact (ih result' injective' inStep).imp fun _ _ _ later => before.trans later

/-- The matches of a pass: those found that a filter keeps. -/
def kept (r : Rule) (keeps : Scene → Bindings → Bool) (s : Scene) : List Bindings :=
  ((r.matcher s).rest s).1.filter (keeps s)

variable {r : Rule} {keeps : Scene → Bindings → Bool} {s : Scene}

theorem kept_eq (r : Rule) (keeps : Scene → Bindings → Bool) (s : Scene) :
    r.kept keeps s = ((r.pattern.occurrences s r.checkValues).filter
      (r.matcher s).isCanonical).filter (keeps s) := by
  rw [kept, matcher, (Matcher.sound_ofPattern s r.pattern r.checkValues r.symmetryBreaking).rest,
    Matcher.pending_ofPattern_eq]

theorem occurs_of_mem_kept {b : Bindings} (member : b ∈ r.kept keeps s) :
    r.pattern.Occurs s r.checkValues b := by
  rw [kept_eq] at member
  exact Pattern.mem_occurrences.mp (List.mem_filter.mp (List.mem_filter.mp member).1).1

/-- The site of a pass when the matches are found and nothing is done with them yet. -/
def begun (r : Rule) (keeps : Scene → Bindings → Bool) (site : Site) : Site :=
  let (found, after) := (r.matcher site.scene).rest site.scene
  let searched := ((r.matcher site.scene).notes after found).map .search
  { site with
    notes :=
      .matches r.id (r.kept keeps site.scene).length :: (searched.reverse ++ site.notes) }

theorem forM_note_run {α : Type} (f : α → Note) (items : List α) (site : Site) :
    (items.forM fun a => note (f a)).run site =
      (.ok ⟨⟩, { site with notes := (items.map f).reverse ++ site.notes }) := by
  induction items generalizing site with
  | nil => rfl
  | cons a rest ih =>
    rw [List.map_cons, List.reverse_cons, List.append_assoc]
    exact ih { site with notes := f a :: site.notes }

theorem findMatches_run (r : Rule) (site : Site) :
    r.findMatches.run site = (.ok ((r.matcher site.scene).rest site.scene).1,
      { site with notes := (((r.matcher site.scene).notes
          ((r.matcher site.scene).rest site.scene).2
          ((r.matcher site.scene).rest site.scene).1).map .search).reverse ++ site.notes }) := by
  unfold findMatches
  rw [scene_bind_run, Work.run_bind, forM_note_run]
  rfl

theorem applyWhere_begun (r : Rule) (keeps : Scene → Bindings → Bool) (site : Site) :
    (r.applyWhere keeps).run site = (do
      let result ← r.applyMatches {} (r.kept keeps site.scene)
      if !result.isEmpty then note (.changed r.id result.tally)
      return result : SiteWork PassResult).run (r.begun keeps site) := by
  unfold applyWhere
  rw [Work.run_bind, findMatches_run]
  rfl

theorem applyWhere_run (r : Rule) (keeps : Scene → Bindings → Bool) (site : Site) :
    ((r.applyWhere keeps).run site).1 =
        ((r.applyMatches {} (r.kept keeps site.scene)).run (r.begun keeps site)).1 ∧
      ((r.applyWhere keeps).run site).2.scene =
        ((r.applyMatches {} (r.kept keeps site.scene)).run (r.begun keeps site)).2.scene := by
  rw [applyWhere_begun, Work.run_bind]
  cases (r.applyMatches {} (r.kept keeps site.scene)).run (r.begun keeps site) with
  | mk answer t =>
    cases answer with
    | error fault => exact ⟨rfl, rfl⟩
    | ok result =>
      dsimp only
      split <;> exact ⟨rfl, rfl⟩

end Rule

/-! ### Scenes that come about -/

namespace Scene

/-- The scenes that operations and passes lead to, with or without ids of the caller's choice. -/
inductive Reachable (chosenIds : Bool) : Scene → Prop where
  | empty : Reachable chosenIds .empty
  | insert {s : Scene} (node : Node) : Reachable chosenIds s → Reachable chosenIds (s.insert node).2
  | insertAt {s : Scene} (id : Int) (node : Node) : chosenIds = true → Reachable chosenIds s →
      Reachable chosenIds ((Scene.insertAt id node).run s).2
  | remove {s : Scene} (id : Int) : Reachable chosenIds s → Reachable chosenIds (s.remove id).2
  | replace {s : Scene} (id : Int) (node : Node) : Reachable chosenIds s →
      Reachable chosenIds ((Scene.replace id node).run s).2
  | addEdge {s : Scene} (a b : Int) : Reachable chosenIds s →
      Reachable chosenIds ((Scene.addEdge a b).run s).2
  | pass {site : Site} (r : Rule) (keeps : Scene → Bindings → Bool) :
      Reachable chosenIds site.scene → Reachable chosenIds ((r.applyWhere keeps).run site).2.scene

theorem insertAt_run (s : Scene) (id : Int) (node : Node) :
    (insertAt id node).run s =
      if s.graph.hasNode id then (.error (.duplicate id), s)
      else (.ok (), ⟨s.graph.place id, s.nodes.put id node⟩) := by
  unfold insertAt
  rw [Work.run_bind, onGraph_run, Graph.addNodeWith_run]
  cases s.graph.hasNode id <;> rfl

theorem pass_balance {site : Site} (r : Rule) (keeps : Scene → Bindings → Bool)
    (inStep : site.scene.InStep) : ∃ removed added,
      site.scene.Balance ((r.applyWhere keeps).run site).2.scene removed added := by
  rw [(r.applyWhere_run keeps site).2]
  have injective : ∀ b ∈ r.kept keeps site.scene, b.values.Nodup := fun b member =>
    (Rule.occurs_of_mem_kept member).injective
  have begun : (r.begun keeps site).scene.InStep := inStep
  obtain ⟨removed, added, balance, -⟩ := r.applyMatches_accounts {} injective begun
  exact ⟨removed, added, balance⟩

theorem Reachable.inStep {chosenIds : Bool} {s : Scene} (h : Reachable chosenIds s) : s.InStep := by
  induction h with
  | empty => exact fun _ => rfl
  | insert node _ inStep => exact (insert_balance inStep node).inStep
  | @insertAt s id node _ _ inStep =>
    rw [insertAt_run]
    split
    · exact inStep
    · intro key
      show (s.nodes.put id node).contains key = (s.graph.place id).hasNode key
      rw [Catalog.contains_put, Graph.hasNode_place, ← inStep]
      rfl
  | remove id _ inStep => exact remove_inStep inStep id
  | replace id node _ inStep => exact ((replace_sameNodes _ id node).balance inStep).inStep
  | addEdge a b _ inStep => exact ((addEdge_sameNodes _ a b).balance inStep).inStep
  | pass r keeps _ inStep =>
    obtain ⟨removed, added, balance⟩ := pass_balance r keeps inStep
    exact balance.inStep

/-- Where no id is of the caller's choice, the counter has passed all of them. -/
theorem Reachable.covered {chosenIds : Bool} {s : Scene} (h : Reachable chosenIds s)
    (none : chosenIds = false) : s.Covered := by
  induction h with
  | empty => exact fun _ there => Bool.noConfusion there
  | insert node before covered => exact (insert_balance before.inStep node).covered covered
  | insertAt id node chosen => exact absurd (chosen.symm.trans none) Bool.noConfusion
  | remove id _ covered => exact remove_covered covered id
  | replace id node before covered =>
    exact ((replace_sameNodes _ id node).balance before.inStep).covered covered
  | addEdge a b before covered =>
    exact ((addEdge_sameNodes _ a b).balance before.inStep).covered covered
  | pass r keeps before covered =>
    obtain ⟨removed, added, balance⟩ := pass_balance r keeps before.inStep
    exact balance.covered covered

end Scene

namespace Rule

variable {r : Rule} {keeps : Scene → Bindings → Bool} {start site : Site}
  {before after : List Bindings} {b : Bindings} {result : PassResult}

theorem applyMatches_append_run (r : Rule) (result : PassResult) (before after : List Bindings)
    (start : Site) :
    (r.applyMatches result (before ++ after)).run start =
      match (r.applyMatches result before).run start with
      | (.ok result, t) => (r.applyMatches result after).run t
      | (.error fault, t) => (.error fault, t) := by
  induction before generalizing result start with
  | nil => rfl
  | cons b rest ih =>
    rw [List.cons_append, applyMatches, applyMatches, SiteWork.scene_bind_run,
      SiteWork.scene_bind_run]
    split
    · exact ih result { start with notes := .stale r.id b :: start.notes }
    · rw [Work.run_bind, Work.run_bind]
      cases (applyProcedures b result r.procedures).run start with
      | mk answer t =>
        cases answer with
        | error fault => rfl
        | ok result => exact ih result t

theorem isStale_iff {s : Scene} : r.isStale s b = true ↔
    ∃ p ∈ r.procedures, ∃ n ∈ p.references, ∀ id, b.get? n = some id → s.contains id = false := by
  have gone (n : Int) : (b.live? s n).isSome = false ↔
      ∀ id, b.get? n = some id → s.contains id = false := by
    rw [← Bool.not_eq_true, Option.isSome_iff_exists]
    simp only [Bindings.live?_eq_some_iff, not_exists, not_and, Bool.not_eq_true]
  simp only [isStale, Procedure.targetsLive, Bool.not_eq_true', List.all_eq_false,
    Bool.not_eq_true, gone]

/-- The result at a match tells what the pass took away and gave until then. -/
theorem balance_before (inStep : start.scene.InStep)
    (found : r.kept keeps start.scene = before ++ after)
    (done : (r.applyMatches {} before).run (r.begun keeps start) = (.ok result, site)) :
    start.scene.Balance site.scene result.removed result.added := by
  have injective : ∀ c ∈ before, c.values.Nodup := fun c member =>
    (occurs_of_mem_kept (found ▸ List.mem_append_left after member)).injective
  have begun : (r.begun keeps start).scene.InStep := inStep
  obtain ⟨removed, added, balance, told⟩ := r.applyMatches_accounts {} injective begun
  rw [done] at balance told
  obtain ⟨taken, given⟩ := told result rfl
  rwa [taken, given]

theorem contains_of_bound (member : b ∈ r.kept keeps start.scene) {n id : Int}
    (bound : b.get? n = some id) : start.scene.contains id = true := by
  obtain ⟨-, -, -, node, attributes, -⟩ := (occurs_of_mem_kept member).found bound
  rw [Scene.contains, Catalog.contains_eq_isSome_get?]
  exact Option.isSome_iff_exists.mpr ⟨node, attributes⟩

/-- A match that is skipped leaves a note and nothing else. -/
theorem applyMatches_stale (found : r.kept keeps start.scene = before ++ b :: after)
    (done : (r.applyMatches {} before).run (r.begun keeps start) = (.ok result, site))
    (stale : r.isStale site.scene b = true) :
    (r.applyMatches {} (r.kept keeps start.scene)).run (r.begun keeps start) =
      (r.applyMatches result after).run
        { site with notes := .stale r.id b :: site.notes } := by
  rw [found, applyMatches_append_run, done]
  dsimp only
  rw [applyMatches, SiteWork.scene_bind_run, if_pos stale]
  rfl

/-- When a pass comes to a match, the match is skipped as a whole exactly if one of the nodes that
the procedures name was taken away more often than it was given since the pass began. Where the
counter had passed all ids before, none is given that was there, so what was taken is enough. -/
theorem stale_iff_taken_for_good {chosenIds : Bool}
    (reachable : start.scene.Reachable chosenIds)
    (found : r.kept keeps start.scene = before ++ b :: after)
    (done : (r.applyMatches {} before).run (r.begun keeps start) = (.ok result, site)) :
    start.scene.Balance site.scene result.removed result.added ∧
    (r.isStale site.scene b = true ↔ ∃ p ∈ r.procedures, ∃ n ∈ p.references,
      ∀ id, b.get? n = some id → result.added.count id < result.removed.count id) ∧
    (r.isStale site.scene b = true → ∃ notes,
      ((r.applyWhere keeps).run start).1 =
          ((r.applyMatches result after).run { site with notes }).1 ∧
        ((r.applyWhere keeps).run start).2.scene =
          ((r.applyMatches result after).run { site with notes }).2.scene) ∧
    (chosenIds = false ∨ start.scene.Covered →
      (∃ p ∈ r.procedures, ∃ n ∈ p.references, ∃ id ∈ result.removed, b.get? n = some id) →
        r.isStale site.scene b = true) := by
  have balance := balance_before reachable.inStep found done
  have there {n id : Int} (bound : b.get? n = some id) : start.scene.contains id = true := by
    have member : b ∈ before ++ b :: after := List.mem_append_right _ List.mem_cons_self
    exact contains_of_bound (found ▸ member) bound
  have stale : r.isStale site.scene b = true ↔ ∃ p ∈ r.procedures, ∃ n ∈ p.references,
      ∀ id, b.get? n = some id → result.added.count id < result.removed.count id := by
    rw [isStale_iff]
    constructor
    · rintro ⟨p, procedure, n, named, absent⟩
      refine ⟨p, procedure, n, named, fun id bound => ?_⟩
      exact (balance.gone_iff (there bound)).mp (absent id bound)
    · rintro ⟨p, procedure, n, named, taken⟩
      refine ⟨p, procedure, n, named, fun id bound => ?_⟩
      exact (balance.gone_iff (there bound)).mpr (taken id bound)
  refine ⟨balance, stale, fun skipped => ?_, ?_⟩
  · refine ⟨.stale r.id b :: site.notes, ?_⟩
    rw [← applyMatches_stale found done skipped]
    exact r.applyWhere_run keeps start
  · rintro covered ⟨p, procedure, n, named, id, taken, bound⟩
    have below : id < start.scene.graph.nextId :=
      covered.elim (fun none => reachable.covered none id (there bound)) (· id (there bound))
    have never : id ∉ result.added := fun given => by
      have fresh := balance.fresh id given
      omega
    refine stale.mpr ⟨p, procedure, n, named, fun other bound' => ?_⟩
    obtain rfl : id = other := Option.some.inj (bound.symm.trans bound')
    rw [List.count_eq_zero_of_not_mem never]
    exact List.count_pos_iff.mpr taken

/-! ### A match of two nodes, both ways round -/

/-- Takes the first of two nodes away and gives another beside the second. -/
def takeAndGive : Rule where
  pattern := ⟨[{ id := 0 }, { id := 1 }], [], by decide, by decide⟩
  procedures := [.delete 0, .add [1] { name := "" }]
  symmetryBreaking := false

def forth : Bindings := ⟨[(0, 0), (1, 1)], by decide⟩

def back : Bindings := ⟨[(0, 1), (1, 0)], by decide⟩

/-- Two nodes under ids of the counter. -/
def countedPair : Scene := ((Scene.empty.insert {}).2.insert {}).2

/-- The same two nodes under ids that the counter does not know of. -/
def chosenPair : Scene := ((Scene.insertAt 1 {}).run ((Scene.insertAt 0 {}).run .empty).2).2

/-- The site of a pass over two nodes after the first match. -/
def afterForth (s : Scene) : Except PassFault PassResult × Site :=
  (takeAndGive.applyMatches {} [forth]).run (takeAndGive.begun (fun _ _ => true) ⟨s, .unseeded, []⟩)

/-- With ids of the counter the second match is skipped, and the node given is left alone. -/
theorem countedPair_skips_back :
    countedPair.Reachable false ∧
    takeAndGive.kept (fun _ _ => true) countedPair = [forth] ++ back :: [] ∧
    (afterForth countedPair).1 = .ok { removed := [0], added := [2] } ∧
    takeAndGive.isStale (afterForth countedPair).2.scene back = true ∧
    (takeAndGive.apply.run ⟨countedPair, .unseeded, []⟩).1 =
      .ok { removed := [0], added := [2] } := by
  have reachable : countedPair.Reachable false := .insert {} (.insert {} .empty)
  have found : takeAndGive.kept (fun _ _ => true) countedPair = [forth] ++ back :: [] := by
    rw [kept_eq]
    rfl
  have answer : (afterForth countedPair).1 = .ok { removed := [0], added := [2] } := rfl
  have start : (⟨countedPair, .unseeded, []⟩ : Site).scene.Reachable false := reachable
  obtain ⟨-, -, skip, covered⟩ := stale_iff_taken_for_good start found (Prod.ext answer rfl)
  have stale := covered (.inl rfl)
    ⟨.add [1] { name := "" }, by simp [takeAndGive], 1, by decide, 0, by decide, rfl⟩
  obtain ⟨notes, passed, -⟩ := skip stale
  exact ⟨reachable, found, answer, stale, passed⟩

/-- With ids of the caller's choice the counter gives the id of the node that was taken, so that the
second match is not skipped: the node that was just given counts as its own. -/
theorem chosenPair_applies_back :
    chosenPair.Reachable true ∧
    takeAndGive.kept (fun _ _ => true) chosenPair = [forth, back] ∧
    (afterForth chosenPair).1 = .ok { removed := [0], added := [0] } ∧
    1 ∈ (Procedure.add [1] { name := "" }).references ∧ back.get? 1 = some 0 ∧
    takeAndGive.isStale (afterForth chosenPair).2.scene back = false ∧
    (takeAndGive.apply.run ⟨chosenPair, .unseeded, []⟩).1 =
      .ok { removed := [0, 1], added := [0, 1] } := by
  have found : takeAndGive.kept (fun _ _ => true) chosenPair = [forth, back] := by
    rw [kept_eq]
    rfl
  refine ⟨.insertAt 1 {} rfl (.insertAt 0 {} rfl .empty), found, rfl, by decide, rfl, rfl, ?_⟩
  rw [apply, (takeAndGive.applyWhere_run _ _).1, show takeAndGive.kept (fun _ _ => true)
    (⟨chosenPair, .unseeded, []⟩ : Site).scene = [forth, back] from found]
  rfl

end Rule

end GrowthGrammar
