import GrowthGrammar.Proofs.Graph.FreeIds
import GrowthGrammar.Proofs.Graph.Kinship
import GrowthGrammar.Scene.Hierarchy
import Mathlib.Logic.Relation
import Mathlib.Order.WellFoundedSet

/-!
Ancestry: the way up a forest, from parent to parent. Where no way comes back to where it started,
every node has a root above it, and the hierarchy finds all nodes from the roots.
-/
namespace GrowthGrammar

open Relation

namespace Forest

def Child (f : Forest) (child parent : Int) : Prop := f.parent? child = some parent

/-- A node lies below its parent, below the parent of that one, and so on. -/
def Below (f : Forest) : Int → Int → Prop := TransGen f.Child

def Acyclic (f : Forest) : Prop := ∀ id, ¬ f.Below id id

variable {f g : Forest}

theorem empty_acyclic : Acyclic empty := by
  intro id cycle
  obtain ⟨parent, first, -⟩ := TransGen.head'_iff.mp cycle
  cases first

/-- Where every parent comes before its children, no way up comes back. -/
theorem acyclic_of_lt (earlier : ∀ child parent, f.Child child parent → parent < child) :
    Acyclic f := by
  have rises {child top : Int} (way : f.Below child top) : top < child := by
    induction way with
    | single step => exact earlier _ _ step
    | tail _ step ih => exact (earlier _ _ step).trans ih
  exact fun id cycle => lt_irrefl id (rises cycle)

/-! ### Ways that end -/

theorem wellFounded_of_finite {before : Int → Int → Prop} [IsStrictOrder Int before]
    {ids : Set Int} (finite : ids.Finite) (within : ∀ a b, before a b → a ∈ ids) :
    WellFounded before := by
  have ends : ids.WellFoundedOn before := finite.wellFoundedOn
  have accessible {a : Int} (member : a ∈ ids) : Acc before a :=
    ends.induction (P := Acc before) member fun a _ ih =>
      .intro a fun b earlier => ih b (within b a earlier) earlier
  exact ⟨fun b => .intro b fun a earlier => accessible (within a b earlier)⟩

theorem finite_kin (f : Forest) : {id | ∃ other, f.Child id other ∨ f.Child other id}.Finite := by
  refine (f.parents.keys ++ f.parents.entries.map (·.2)).finite_toSet.subset ?_
  rintro id ⟨other, up | down⟩
  · exact List.mem_append_left _ (Table.mem_keys.mpr (Table.contains_iff.mpr ⟨other, up⟩))
  · obtain ⟨entry, found, rfl⟩ := Option.map_eq_some_iff.mp down
    exact List.mem_append_right _ (List.mem_map_of_mem (List.mem_of_find?_eq_some found))

/-- A way down that never comes back ends. -/
theorem Acyclic.wellFounded_below (h : Acyclic f) : WellFounded f.Below := by
  have : IsStrictOrder Int f.Below := { irrefl := h, trans := fun _ _ _ => TransGen.trans }
  refine wellFounded_of_finite f.finite_kin fun low high way => ?_
  obtain ⟨parent, step, -⟩ := TransGen.head'_iff.mp way
  exact ⟨parent, .inl step⟩

/-- A way up that never comes back ends. -/
theorem Acyclic.wellFounded_above (h : Acyclic f) :
    WellFounded fun high low => f.Below low high := by
  have : IsStrictOrder Int fun high low => f.Below low high :=
    { irrefl := h, trans := fun _ _ _ first second => TransGen.trans second first }
  refine wellFounded_of_finite f.finite_kin fun high low way => ?_
  obtain ⟨child, -, step⟩ := TransGen.tail'_iff.mp way
  exact ⟨child, .inr step⟩

theorem Acyclic.exists_root (h : Acyclic f) (id : Int) :
    ∃ root, ReflTransGen f.Child id root ∧ f.parent? root = none := by
  induction id using h.wellFounded_above.induction with
  | _ id ih =>
    cases further : f.parent? id with
    | none => exact ⟨id, .refl, further⟩
    | some parent =>
      obtain ⟨root, way, top⟩ := ih parent (.single further)
      exact ⟨root, .head further way, top⟩

/-! ### Forests made of others -/

/-- A forest whose every step up goes up in an acyclic one is acyclic. -/
theorem Acyclic.of_below (h : Acyclic f)
    (step : ∀ child parent, g.Child child parent → f.Below child parent) : Acyclic g :=
  fun id cycle => h id (TransGen.closed step _ _ cycle)

/-- A node out of which nobody has grown may get a parent. -/
theorem Acyclic.leaf (h : Acyclic f) {leaf parent : Int} (different : leaf ≠ parent)
    (childless : ∀ child, f.parent? child ≠ some leaf)
    (parents : ∀ key, g.parent? key = if leaf = key then some parent else f.parent? key) :
    Acyclic g := by
  have never {child : Int} (step : g.Child child leaf) : False := by
    rw [Child, parents] at step
    split at step
    · exact different (Option.some.inj step).symm
    · exact childless child step
  -- A way that does not start at the leaf does not come by it.
  have onward {id top : Int} (other : leaf ≠ id) (way : g.Below id top) :
      f.Below id top ∧ leaf ≠ top := by
    induction way with
    | single step =>
      refine ⟨.single ?_, fun same => never (same ▸ step)⟩
      rwa [Child, parents, if_neg other] at step
    | tail _ step ih =>
      refine ⟨.tail ih.1 ?_, fun same => never (same ▸ step)⟩
      rwa [Child, parents, if_neg ih.2] at step
  intro id cycle
  obtain ⟨below, -, last⟩ := TransGen.tail'_iff.mp cycle
  exact h id (onward (fun same => never (same ▸ last)) cycle).1

/-! ### Nodes drawn together -/

/-- The parents after some nodes have been drawn together into one of them, which gets a parent of
its own. -/
def drawnTogether (f : Forest) (ids : List Int) (survivor : Int) (parent : Option Int)
    (key : Int) : Option Int :=
  if key = survivor then parent
  else if key ∈ ids then none
  else (f.parent? key).map fun above => if above ∈ ids then survivor else above

section DrawnTogether

variable {ids : List Int} {survivor : Int} {parent : Option Int}

theorem child_of_drawnTogether
    (parents : ∀ key, g.parent? key = f.drawnTogether ids survivor parent key) {child top : Int}
    (other : child ≠ survivor) :
    g.Child child top ↔ child ∉ ids ∧
      ∃ above, f.Child child above ∧ (if above ∈ ids then survivor else above) = top := by
  rw [Child, parents, drawnTogether, if_neg other]
  split
  · rename_i member
    simp [member]
  · rename_i member
    simp [member, Child]

/-- The way up from a node to one of those drawn together leads to the survivor. -/
theorem below_survivor
    (parents : ∀ key, g.parent? key = f.drawnTogether ids survivor parent key)
    (among : survivor ∈ ids) {id member : Int} (within : member ∈ ids)
    (way : f.Below id member) (outside : id ∉ ids) : g.Below id survivor := by
  induction way using TransGen.head_induction_on with
  | @single id step =>
    have other := (ne_of_mem_of_not_mem among outside).symm
    exact .single ((child_of_drawnTogether parents other).mpr
      ⟨outside, member, step, if_pos within⟩)
  | @head id above step _ ih =>
    have other := (ne_of_mem_of_not_mem among outside).symm
    have up := (child_of_drawnTogether parents other).mpr ⟨outside, above, step, rfl⟩
    split at up
    · exact .single up
    · rename_i further
      exact .head up (ih further)

theorem exists_below_of_below_survivor
    (parents : ∀ key, g.parent? key = f.drawnTogether ids survivor parent key)
    (among : survivor ∈ ids) {id : Int} (way : g.Below id survivor) (outside : id ∉ ids) :
    ∃ member ∈ ids, f.Below id member := by
  induction way using TransGen.head_induction_on with
  | @single id step =>
    have other := (ne_of_mem_of_not_mem among outside).symm
    obtain ⟨-, above, up, same⟩ := (child_of_drawnTogether parents other).mp step
    by_cases member : above ∈ ids
    · exact ⟨above, member, .single up⟩
    · rw [if_neg member] at same
      exact ⟨survivor, among, .single (same ▸ up)⟩
  | @head id next step _ ih =>
    have other := (ne_of_mem_of_not_mem among outside).symm
    obtain ⟨-, above, up, same⟩ := (child_of_drawnTogether parents other).mp step
    by_cases member : above ∈ ids
    · exact ⟨above, member, .single up⟩
    · rw [if_neg member] at same
      obtain ⟨member, within, further⟩ := ih (same ▸ member)
      exact ⟨member, within, .head up (same ▸ further)⟩

/-- A way up after the drawing together was one before, or comes by the survivor. -/
theorem below_or_by_survivor
    (parents : ∀ key, g.parent? key = f.drawnTogether ids survivor parent key) {id top : Int}
    (way : g.Below id top) :
    f.Below id top ∨ ReflTransGen g.Child id survivor ∧ ReflTransGen g.Child survivor top := by
  induction way with
  | @single next step =>
    by_cases here : id = survivor
    · exact .inr ⟨here ▸ .refl, here ▸ .single step⟩
    · obtain ⟨-, above, up, same⟩ := (child_of_drawnTogether parents here).mp step
      by_cases member : above ∈ ids
      · rw [if_pos member] at same
        exact .inr ⟨.single (same ▸ step), same ▸ .refl⟩
      · rw [if_neg member] at same
        exact .inl (.single (same ▸ up))
  | @tail middle next first step ih =>
    obtain before | ⟨before, after⟩ := ih
    · by_cases here : middle = survivor
      · exact .inr ⟨here ▸ first.to_reflTransGen, here ▸ .single step⟩
      · obtain ⟨-, above, up, same⟩ := (child_of_drawnTogether parents here).mp step
        by_cases member : above ∈ ids
        · rw [if_pos member] at same
          exact .inr ⟨same ▸ (TransGen.tail first step).to_reflTransGen, same ▸ .refl⟩
        · rw [if_neg member] at same
          exact .inl (.tail before (same ▸ up))
    · exact .inr ⟨before, .tail after step⟩

/-- Drawing nodes together closes a way exactly if the survivor's new parent lies below one of
them. -/
theorem Acyclic.drawnTogether_iff (h : Acyclic f)
    (parents : ∀ key, g.parent? key = f.drawnTogether ids survivor parent key)
    (among : survivor ∈ ids) (outer : ∀ above, parent = some above → above ∉ ids) :
    Acyclic g ↔ ∀ above, parent = some above → ∀ id ∈ ids, ¬ f.Below above id := by
  have up {above : Int} : g.Child survivor above ↔ parent = some above := by
    rw [Child, parents, drawnTogether, if_pos rfl]
  constructor
  · intro acyclic above found id member below
    have way := below_survivor parents among member below (outer above found)
    exact acyclic survivor (.head (up.mpr found) way)
  · intro apart
    have noReturn : ¬ g.Below survivor survivor := by
      intro cycle
      obtain ⟨above, first, rest⟩ := TransGen.head'_iff.mp cycle
      have outside := outer above (up.mp first)
      obtain same | way := reflTransGen_iff_eq_or_transGen.mp rest
      · exact outside (same ▸ among)
      · obtain ⟨id, member, below⟩ := exists_below_of_below_survivor parents among way outside
        exact apart above (up.mp first) id member below
    intro id cycle
    obtain before | ⟨before, after⟩ := below_or_by_survivor parents cycle
    · exact h id before
    · -- The cycle comes by the survivor, so that it starts and ends there as well.
      obtain same | way := reflTransGen_iff_eq_or_transGen.mp before
      · exact noReturn (same ▸ cycle)
      · exact noReturn (TransGen.trans_right after way)

end DrawnTogether

end Forest

namespace Graph

variable {g : Graph}

/-! ### The hierarchy -/

/-- One remaining node is the parent of another. -/
def ChildAmong (g : Graph) (remaining : List Int) (child parent : Int) : Prop :=
  g.forest.Child child parent ∧ child ∈ remaining ∧ parent ∈ remaining

/-- When a node is met, the nodes below it are found from its children, and the others from where
they were found before. -/
theorem exists_way_past (agree : g.forest.Mutual) {remaining pending : List Int}
    {next id top : Int} (way : ReflTransGen (g.ChildAmong remaining) id top)
    (waiting : top ∈ next :: pending) (there : id ∈ remaining) (other : id ≠ next) :
    ∃ start ∈ g.forest.childrenOf next ++ pending,
      ReflTransGen (g.ChildAmong (remaining.erase next)) id start := by
  induction way using ReflTransGen.head_induction_on with
  | refl =>
    obtain same | later := List.mem_cons.mp waiting
    · exact absurd same other
    · exact ⟨top, List.mem_append_right _ later, .refl⟩
  | @head id above step _ ih =>
    by_cases here : above = next
    · have child := (agree id next).mpr (here ▸ step.1)
      exact ⟨id, List.mem_append_left _ child, .refl⟩
    · obtain ⟨start, member, further⟩ := ih step.2.2 here
      refine ⟨start, member, .head ⟨step.1, ?_, ?_⟩ further⟩
      · exact (List.mem_erase_of_ne other).mpr there
      · exact (List.mem_erase_of_ne here).mpr step.2.2

/-- The walk meets every remaining node from which remaining ones lead up to a pending one. -/
theorem mem_walk (agree : g.forest.Mutual) {remaining pending : List Int} {id top : Int}
    (there : id ∈ remaining) (way : ReflTransGen (g.ChildAmong remaining) id top)
    (waiting : top ∈ pending) : id ∈ g.walk remaining pending := by
  fun_induction walk g remaining pending generalizing id top with
  | case1 remaining => exact absurd waiting List.not_mem_nil
  | case2 remaining next pending met ih =>
    by_cases here : id = next
    · exact here ▸ List.mem_cons_self
    · obtain ⟨start, member, further⟩ := exists_way_past agree way waiting there here
      exact List.mem_cons_of_mem _ (ih ((List.mem_erase_of_ne here).mpr there) further member)
  | case3 remaining next pending passed ih =>
    have within : top ∈ remaining := by
      cases way with
      | refl => exact there
      | tail _ step => exact step.2.2
    obtain same | later := List.mem_cons.mp waiting
    · exact absurd (same ▸ within) passed
    · exact ih there way later

/-- The forest of a graph is one of rooted trees: no node has grown out of itself, every node has a
root above it, and the hierarchy comes to every node from the roots. -/
structure Rooted (g : Graph) : Prop where
  acyclic : g.forest.Acyclic
  exists_root : ∀ id ∈ g.ids, ∃ root ∈ g.roots, ReflTransGen g.forest.Child id root
  walked : ∀ id ∈ g.ids, id ∈ g.walk g.ids g.roots

/-- If parents and children agree and parents are nodes, it is enough that no way comes back. -/
theorem rooted_of_acyclic (agree : g.forest.Mutual)
    (planted : ∀ child parent, g.forest.Child child parent → parent ∈ g.ids)
    (acyclic : g.forest.Acyclic) : g.Rooted := by
  have among {id root : Int} (there : id ∈ g.ids) (way : ReflTransGen g.forest.Child id root) :
      ReflTransGen (g.ChildAmong g.ids) id root ∧ root ∈ g.ids := by
    induction way with
    | refl => exact ⟨.refl, there⟩
    | tail _ step ih =>
      have above := planted _ _ step
      exact ⟨.tail ih.1 ⟨step, ih.2, above⟩, above⟩
  have up : ∀ id ∈ g.ids, ∃ root ∈ g.roots, ReflTransGen g.forest.Child id root := by
    intro id there
    obtain ⟨root, way, top⟩ := acyclic.exists_root id
    refine ⟨root, List.mem_filter.mpr ⟨(among there way).2, ?_⟩, way⟩
    rw [top]
    rfl
  refine ⟨acyclic, up, fun id there => ?_⟩
  obtain ⟨root, member, way⟩ := up id there
  exact mem_walk agree there (among there way).1 member

end Graph

end GrowthGrammar
