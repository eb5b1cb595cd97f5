import GrowthGrammar.Proofs.Graph.Ancestry
import GrowthGrammar.Proofs.Graph.Run

/-!
The hierarchy of a graph is found by a loop with a stack. Whatever the forest says, the loop ends,
and every node is met once. Where parents and children agree and no way up comes back, the nodes
are met in preorder: each is followed by all that lies below it.
-/
namespace GrowthGrammar

open Relation

namespace Forest

variable {f : Forest}

/-- The trees of some nodes written down one after the other, where the tree of a node is the node
and then the trees of its children. -/
inductive Preorder (f : Forest) : List Int → List Int → Prop where
  | nil : Preorder f [] []
  | node {id : Int} {rest below later : List Int} : Preorder f (f.childrenOf id) below →
      Preorder f rest later → Preorder f (id :: rest) (id :: (below ++ later))

theorem childrenOf_ascend (f : Forest) (id : Int) : (f.childrenOf id).Pairwise (· < ·) := by
  unfold childrenOf
  split
  · exact (Table.keys_ordered _).imp of_decide_eq_true
  · exact .nil

/-! ### Every node has a tree -/

theorem preorder_of_each {ids : List Int}
    (each : ∀ id ∈ ids, ∃ below, f.Preorder (f.childrenOf id) below) :
    ∃ out, f.Preorder ids out := by
  induction ids with
  | nil => exact ⟨[], .nil⟩
  | cons id rest ih =>
    obtain ⟨below, tree⟩ := each id List.mem_cons_self
    obtain ⟨later, trees⟩ := ih fun id member => each id (List.mem_cons_of_mem _ member)
    exact ⟨id :: (below ++ later), .node tree trees⟩

theorem exists_preorder (agree : Mutual f) (acyclic : Acyclic f) (ids : List Int) :
    ∃ out, f.Preorder ids out := by
  have tree (id : Int) : ∃ below, f.Preorder (f.childrenOf id) below := by
    induction id using acyclic.wellFounded_below.induction with
    | _ id ih =>
      exact preorder_of_each fun child member => ih child (.single ((agree child id).mp member))
  exact preorder_of_each fun id _ => tree id

/-! ### What a preorder holds -/

theorem below_iff_exists_child (agree : Mutual f) {low high : Int} :
    f.Below low high ↔ ∃ child ∈ f.childrenOf high, ReflTransGen f.Child low child := by
  simp only [Below, TransGen.tail'_iff, agree _ high, Child, and_comm]

theorem Preorder.mem_iff (agree : Mutual f) {ids out : List Int} (h : f.Preorder ids out)
    {key : Int} : key ∈ out ↔ ∃ id ∈ ids, ReflTransGen f.Child key id := by
  induction h with
  | nil => simp
  | @node id rest below later _ _ tree trees =>
    rw [List.mem_cons, List.mem_append, tree, trees, ← below_iff_exists_child agree, ← or_assoc,
      List.exists_mem_cons_iff, reflTransGen_iff_eq_or_transGen, eq_comm (a := id)]
    rfl

/-- No child of a node lies below another one. -/
theorem siblings_apart (acyclic : Acyclic f) {a b parent : Int} (first : f.Child a parent)
    (second : f.Child b parent) : ¬ f.Below a b := by
  intro way
  obtain ⟨above, up, rest⟩ := TransGen.head'_iff.mp way
  obtain rfl : parent = above := Option.some.inj (first.symm.trans up)
  exact acyclic parent (TransGen.tail' rest second)

/-- Two nodes above a third lie on one way up. -/
theorem comparable {low a b : Int} (first : ReflTransGen f.Child low a)
    (second : ReflTransGen f.Child low b) :
    ReflTransGen f.Child a b ∨ ReflTransGen f.Child b a :=
  ReflTransGen.total_of_right_unique (fun _ _ _ up up' => Option.some.inj (up.symm.trans up'))
    first second

/-- Of nodes that do not lie below one another, one at most lies above a given node. -/
theorem eq_of_common {low a b : Int} (first : ReflTransGen f.Child low a)
    (second : ReflTransGen f.Child low b) (apart : ¬ f.Below a b) (apart' : ¬ f.Below b a) :
    a = b := by
  obtain up | down := comparable first second
  · obtain same | way := reflTransGen_iff_eq_or_transGen.mp up
    · exact same.symm
    · exact absurd way apart
  · obtain same | way := reflTransGen_iff_eq_or_transGen.mp down
    · exact same
    · exact absurd way apart'

theorem Preorder.nodup (agree : Mutual f) (acyclic : Acyclic f) {ids out : List Int}
    (h : f.Preorder ids out) (distinct : ids.Nodup)
    (apart : ∀ a ∈ ids, ∀ b ∈ ids, ¬ f.Below a b) : out.Nodup := by
  induction h with
  | nil => exact List.nodup_nil
  | @node id rest below later tree trees nodup_below nodup_later =>
    obtain ⟨fresh, distinct⟩ := List.nodup_cons.mp distinct
    have mem_below {key : Int} : key ∈ below ↔ f.Below key id := by
      rw [tree.mem_iff agree, below_iff_exists_child agree]
    -- What lies below `id` lies below none of the nodes that come after it.
    have outside {key : Int} (way : ReflTransGen f.Child key id) : key ∉ later := by
      intro member
      obtain ⟨other, within, way'⟩ := (trees.mem_iff agree).mp member
      have here := List.mem_cons_self (a := id) (l := rest)
      have there := List.mem_cons_of_mem id within
      have same := eq_of_common way way' (apart id here other there) (apart other there id here)
      exact fresh (same ▸ within)
    have children : below.Nodup := by
      refine nodup_below ((f.childrenOf_ascend id).imp ne_of_lt) fun a first b second => ?_
      exact siblings_apart acyclic ((agree a id).mp first) ((agree b id).mp second)
    have others : later.Nodup := by
      refine nodup_later distinct fun a first b second => ?_
      exact apart a (List.mem_cons_of_mem _ first) b (List.mem_cons_of_mem _ second)
    rw [List.nodup_cons, List.mem_append, List.nodup_append]
    refine ⟨?_, children, others, ?_⟩
    · rintro (low | low)
      · exact acyclic id (mem_below.mp low)
      · exact outside .refl low
    · rintro key low _ after rfl
      exact outside (mem_below.mp low).to_reflTransGen after

/-- In a preorder every node is followed by the trees of its children. -/
theorem Preorder.exists_subtree {ids out : List Int} (h : f.Preorder ids out) {key : Int}
    (member : key ∈ out) : ∃ before below after,
      out = before ++ key :: (below ++ after) ∧ f.Preorder (f.childrenOf key) below := by
  induction h with
  | nil => cases member
  | @node id rest below later tree _ within_below within_later =>
    obtain rfl | low | after := by simpa using member
    · exact ⟨[], below, later, rfl, tree⟩
    · obtain ⟨first, under, last, rfl, subtree⟩ := within_below low
      exact ⟨id :: first, under, last ++ later, by simp, subtree⟩
    · obtain ⟨first, under, last, rfl, subtree⟩ := within_later after
      exact ⟨id :: (below ++ first), under, last, by simp, subtree⟩

end Forest

namespace Graph

variable {g : Graph}

/-! ### The loop -/

/-- Where the loop stands: the nodes that it has met, and its stack, the top first. -/
structure Traversal where
  met : List Int
  stack : List Int

namespace Traversal

def start (g : Graph) : Traversal := ⟨[], g.roots⟩

/-- One turn of the loop. It passes over what has been met already and what is no node. -/
def step (g : Graph) : Traversal → Traversal
  | ⟨met, []⟩ => ⟨met, []⟩
  | ⟨met, id :: stack⟩ =>
    if id ∈ met ∨ g.hasNode id = false then ⟨met, stack⟩
    else ⟨met ++ [id], g.forest.childrenOf id ++ stack⟩

/-- The nodes that are still to be met. -/
def ahead (g : Graph) (t : Traversal) : List Int :=
  g.walk (g.ids.filter (· ∉ t.met)) t.stack

/-- The number of turns that are left: whatever lies on the stack, now or later, takes one. -/
def left (g : Graph) (t : Traversal) : Nat :=
  t.stack.length + ((t.ahead g).map fun id => (g.forest.childrenOf id).length).sum

/-- The nodes in order, when the loop has ended. -/
def answer (g : Graph) (t : Traversal) : List Int :=
  t.met ++ g.ids.filter fun id => id ∉ t.met

theorem ahead_cons (g : Graph) (met stack : List Int) (id : Int) :
    ahead g ⟨met, id :: stack⟩ =
      if id ∈ met ∨ g.hasNode id = false then ahead g ⟨met, stack⟩
      else id :: ahead g ⟨met ++ [id], g.forest.childrenOf id ++ stack⟩ := by
  have remains : id ∈ g.ids.filter (· ∉ met) ↔ ¬ (id ∈ met ∨ g.hasNode id = false) := by
    simp [mem_ids, and_comm]
  unfold ahead
  rw [walk]
  dsimp only
  split
  · rename_i fresh
    rw [if_neg (remains.mp fresh)]
    have distinct : (g.ids.filter (· ∉ met)).Nodup := g.nodes.keys_nodup.filter _
    rw [distinct.erase_eq_filter, List.filter_filter]
    congr 2
    refine List.filter_congr fun key _ => ?_
    rw [Bool.eq_iff_iff]
    simp [and_comm]
  · rename_i passed
    rw [if_pos (by_contra fun fresh => passed (remains.mpr fresh))]

theorem step_outcome (g : Graph) (t : Traversal) :
    (t.step g).met ++ (t.step g).ahead g = t.met ++ t.ahead g := by
  obtain ⟨met, _ | ⟨id, stack⟩⟩ := t
  · rfl
  · rw [ahead_cons]
    unfold step
    dsimp only
    split
    · rfl
    · simp

theorem step_left (g : Graph) (t : Traversal) : (t.step g).left g = t.left g - 1 := by
  obtain ⟨met, _ | ⟨id, stack⟩⟩ := t
  · simp [step, left, ahead, walk]
  · unfold left
    rw [ahead_cons]
    unfold step
    dsimp only
    split
    · simp only [List.length_cons]
      omega
    · simp only [List.length_append, List.length_cons, List.map_cons, List.sum_cons]
      omega

theorem left_eq_zero {t : Traversal} : t.left g = 0 ↔ t.stack = [] := by
  constructor
  · intro ended
    unfold left at ended
    exact List.length_eq_zero_iff.mp (by omega)
  · obtain ⟨met, stack⟩ := t
    rintro rfl
    simp [left, ahead, walk]

theorem iterate_outcome (g : Graph) (n : Nat) (t : Traversal) :
    ((step g)^[n] t).met ++ ((step g)^[n] t).ahead g = t.met ++ t.ahead g := by
  induction n with
  | zero => rfl
  | succ n ih => rw [Function.iterate_succ_apply', step_outcome, ih]

theorem iterate_left (g : Graph) (n : Nat) (t : Traversal) :
    ((step g)^[n] t).left g = t.left g - n := by
  induction n with
  | zero => rfl
  | succ n ih => rw [Function.iterate_succ_apply', step_left, ih, Nat.sub_sub]

/-- The loop ends after as many turns as are left, and not before. -/
theorem ended_iff (g : Graph) (n : Nat) (t : Traversal) :
    ((step g)^[n] t).stack = [] ↔ t.left g ≤ n := by
  rw [← left_eq_zero, iterate_left, Nat.sub_eq_zero_iff_le]

theorem answer_of_ended {n : Nat} (ended : ((step g)^[n] (start g)).stack = []) :
    ((step g)^[n] (start g)).answer g = g.hierarchy := by
  have outcome := iterate_outcome g n (start g)
  have none : ahead g ((step g)^[n] (start g)) = [] := by
    rw [ahead, ended, walk]
  have all : ahead g (start g) = g.walk g.ids g.roots := by
    simp [ahead, start]
  rw [none, all, List.append_nil] at outcome
  rw [answer, outcome]
  rfl

end Traversal

/-! ### Every node once -/

theorem walk_subperm (g : Graph) (remaining pending : List Int) :
    (g.walk remaining pending).Subperm remaining := by
  fun_induction walk g remaining pending with
  | case1 remaining => exact List.nil_subperm
  | case2 remaining id pending member ih =>
    exact ((List.subperm_cons id).mpr ih).trans (List.perm_cons_erase member).symm.subperm
  | case3 remaining id pending passed ih => exact ih

theorem mem_hierarchy {id : Int} : id ∈ g.hierarchy ↔ g.hasNode id = true := by
  have within := (g.walk_subperm g.ids g.roots).subset (a := id)
  unfold hierarchy
  rw [← mem_ids]
  simp only [List.mem_append, List.mem_filter, decide_eq_true_eq]
  tauto

theorem hierarchy_nodup (g : Graph) : g.hierarchy.Nodup := by
  have distinct : g.ids.Nodup := g.nodes.keys_nodup
  obtain ⟨part, same, within⟩ := g.walk_subperm g.ids g.roots
  have reached : (g.walk g.ids g.roots).Nodup := same.nodup_iff.mp (within.nodup distinct)
  unfold hierarchy
  refine List.nodup_append.mpr ⟨reached, distinct.filter _, ?_⟩
  rintro id first _ last rfl
  exact of_decide_eq_true (List.mem_filter.mp last).2 first

/-! ### Preorder -/

/-- From nodes whose trees remain, the walk goes through these trees before all else. -/
theorem walk_preorder {ids out : List Int} (h : g.forest.Preorder ids out) (distinct : out.Nodup)
    {remaining : List Int} (there : ∀ id ∈ out, id ∈ remaining) (pending : List Int) :
    g.walk remaining (ids ++ pending) = out ++ g.walk (remaining.diff out) pending := by
  induction h generalizing remaining pending with
  | nil => rfl
  | @node id rest below later _ _ walk_below walk_later =>
    obtain ⟨fresh, distinct⟩ := List.nodup_cons.mp distinct
    obtain ⟨distinct_below, distinct_later, disjoint⟩ := List.nodup_append.mp distinct
    have under : ∀ key ∈ below, key ∈ remaining.erase id := by
      intro key low
      have member := List.mem_append_left later low
      exact (List.mem_erase_of_ne (ne_of_mem_of_not_mem member fresh)).mpr
        (there key (List.mem_cons_of_mem _ member))
    have after : ∀ key ∈ later, key ∈ (remaining.erase id).diff below := by
      intro key last
      have member := List.mem_append_right below last
      refine List.mem_diff_of_mem ?_ fun low => disjoint key low key last rfl
      exact (List.mem_erase_of_ne (ne_of_mem_of_not_mem member fresh)).mpr
        (there key (List.mem_cons_of_mem _ member))
    rw [List.cons_append, walk, if_pos (there id List.mem_cons_self),
      walk_below distinct_below under, walk_later distinct_later after]
    simp

/-- An order of the nodes of a graph that follows its forest: from the roots on, each node comes
before the trees of its children, which hold all that lies below it. -/
structure InPreorder (g : Graph) (order : List Int) : Prop where
  preorder : g.forest.Preorder g.roots order
  roots_ascend : g.roots.Pairwise (· < ·)
  children_ascend : ∀ id, (g.forest.childrenOf id).Pairwise (· < ·)
  subtree : ∀ id, g.hasNode id = true → ∃ before below after,
    order = before ++ id :: (below ++ after) ∧
    g.forest.Preorder (g.forest.childrenOf id) below ∧ ∀ key, key ∈ below ↔ g.forest.Below key id

theorem roots_ascend (g : Graph) : g.roots.Pairwise (· < ·) :=
  (g.nodes.keys_ordered.imp of_decide_eq_true).filter _

/-- A root lies below no one. -/
theorem not_below_of_root {root high : Int} (member : root ∈ g.roots) :
    ¬ g.forest.Below root high := by
  intro way
  obtain ⟨parent, up, -⟩ := TransGen.head'_iff.mp way
  have top := (List.mem_filter.mp member).2
  rw [show g.forest.parent? root = some parent from up] at top
  cases top

theorem hierarchy_of_preorder {order : List Int} (trees : g.forest.Preorder g.roots order)
    (distinct : order.Nodup) (all : ∀ id, id ∈ order ↔ id ∈ g.ids) : g.hierarchy = order := by
  have walked := walk_preorder trees distinct (fun id => (all id).mp) []
  rw [List.append_nil, walk, List.append_nil] at walked
  have none : g.ids.filter (fun id => id ∉ order) = [] := by
    refine List.filter_eq_nil_iff.mpr fun id member => ?_
    simpa using (all id).mpr member
  rw [hierarchy, walked, none, List.append_nil]

theorem hierarchy_inPreorder (agree : g.forest.Mutual) (acyclic : g.forest.Acyclic)
    (live : ∀ child parent, g.forest.Child child parent →
      g.hasNode child = true ∧ g.hasNode parent = true) : g.InPreorder g.hierarchy := by
  have rooted := rooted_of_acyclic agree
    (fun child parent up => mem_ids.mpr (live child parent up).2) acyclic
  obtain ⟨order, trees⟩ := Forest.exists_preorder agree acyclic g.roots
  have distinct := trees.nodup agree acyclic (g.roots_ascend.imp ne_of_lt)
    fun a root b _ => not_below_of_root root
  have all (id : Int) : id ∈ order ↔ id ∈ g.ids := by
    rw [trees.mem_iff agree]
    constructor
    · rintro ⟨root, top, way⟩
      obtain rfl | ⟨parent, up, -⟩ := ReflTransGen.cases_head way
      · exact (List.mem_filter.mp top).1
      · exact mem_ids.mpr (live id parent up).1
    · exact rooted.exists_root id
  rw [hierarchy_of_preorder trees distinct all]
  refine ⟨trees, g.roots_ascend, g.forest.childrenOf_ascend, fun id there => ?_⟩
  have member := (all id).mpr (mem_ids.mpr there)
  obtain ⟨before, below, after, split, subtree⟩ := trees.exists_subtree member
  refine ⟨before, below, after, split, subtree, fun key => ?_⟩
  rw [subtree.mem_iff agree, Forest.below_iff_exists_child agree]

/-- In whatever graph, the loop ends after as many turns as its start has left, with the hierarchy,
and this has every node once and nothing else. If both sides of the forest agree, no way up comes
back and no one but nodes is named, the hierarchy is the preorder of the forest. -/
theorem hierarchy_in_order (g : Graph) :
    (∀ n, ((Traversal.step g)^[n] (.start g)).stack = [] ↔ (Traversal.start g).left g ≤ n) ∧
    (∀ n, ((Traversal.step g)^[n] (.start g)).stack = [] →
      ((Traversal.step g)^[n] (.start g)).answer g = g.hierarchy) ∧
    (∀ id, g.hierarchy.count id = if g.hasNode id then 1 else 0) ∧
    (g.forest.Mutual → g.forest.Acyclic →
      (∀ child parent, g.forest.Child child parent →
        g.hasNode child = true ∧ g.hasNode parent = true) → g.InPreorder g.hierarchy) := by
  refine ⟨fun n => Traversal.ended_iff g n (.start g), fun n => Traversal.answer_of_ended,
    fun id => ?_, hierarchy_inPreorder⟩
  simp only [g.hierarchy_nodup.count, mem_hierarchy]

/-- Two roots, of which one has two children and the elder of these one. -/
def twoTrees : Graph :=
  empty.run [.addNode, .addNode, .addNode, .addNode, .addNode, .attach 3 0, .attach 1 0,
    .attach 4 1]

theorem twoTrees_in_order :
    twoTrees.forest.Mutual ∧ twoTrees.forest.Acyclic ∧
      (∀ child parent, twoTrees.forest.Child child parent →
        twoTrees.hasNode child = true ∧ twoTrees.hasNode parent = true) ∧
      twoTrees.InPreorder twoTrees.hierarchy := by
  have grown : twoTrees.forest = ((empty.forest.attach 3 0).attach 1 0).attach 4 1 := by rfl
  have agree : twoTrees.forest.Mutual := by
    rw [grown]
    have first := Forest.attach_mutual Forest.empty_coherent.mutual 3 0
    exact Forest.attach_mutual (Forest.attach_mutual first 1 0) 4 1
  have steps {child parent : Int} (step : twoTrees.forest.Child child parent) :
      child = 4 ∧ parent = 1 ∨ child = 1 ∧ parent = 0 ∨ child = 3 ∧ parent = 0 := by
    rw [Forest.Child, grown] at step
    simp only [Forest.parent?_attach] at step
    split_ifs at step <;> cases step <;> omega
  have acyclic : twoTrees.forest.Acyclic :=
    Forest.acyclic_of_lt fun child parent step => by have := steps step; omega
  have live : ∀ child parent, twoTrees.forest.Child child parent →
      twoTrees.hasNode child = true ∧ twoTrees.hasNode parent = true := by
    intro child parent step
    obtain ⟨rfl, rfl⟩ | ⟨rfl, rfl⟩ | ⟨rfl, rfl⟩ := steps step <;> exact ⟨rfl, rfl⟩
  exact ⟨agree, acyclic, live, (hierarchy_in_order twoTrees).2.2.2 agree acyclic live⟩

example : twoTrees.hierarchy = [0, 1, 4, 3, 2] := by cbv

end Graph

end GrowthGrammar
