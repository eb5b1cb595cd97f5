import GrowthGrammar.Graph.Forest

/-!
Kinship: a forest tells twice who grew out of whom, once from the side of the child and once from
that of the parent. What is attached, detached, released and removed keeps both sides alike, so that
the parents alone say what an operation does.
-/
namespace GrowthGrammar.Forest

/-- The two sides of a forest agree, and no empty set of children is kept. -/
structure Coherent (f : Forest) : Prop where
  mem_childrenOf : ∀ child parent, child ∈ f.childrenOf parent ↔ f.parent? child = some parent
  children_nonempty : ∀ parent set, f.children.get? parent = some set → set.isEmpty = false

/-- Whomever a parent counts among its children has that parent. -/
def Acknowledged (f : Forest) : Prop :=
  ∀ child parent, child ∈ f.childrenOf parent → f.parent? child = some parent

/-- Parents count exactly those among their children who have them for a parent. -/
def Mutual (f : Forest) : Prop :=
  ∀ child parent, child ∈ f.childrenOf parent ↔ f.parent? child = some parent

theorem Mutual.acknowledged {f : Forest} (h : Mutual f) : Acknowledged f :=
  fun child parent => (h child parent).mp

theorem Coherent.mutual {f : Forest} (h : Coherent f) : Mutual f := h.mem_childrenOf

theorem empty_coherent : Coherent empty where
  mem_childrenOf := fun child parent => by
    constructor
    · intro member
      exact absurd member List.not_mem_nil
    · intro found
      cases found
  children_nonempty := fun parent set found => by cases found

variable {f : Forest}

/-! ### Sets of children -/

theorem contains_of_isEmpty {set : KeySet Int} (empty : set.isEmpty = true) (id : Int) :
    set.contains id = false := by
  rw [Table.isEmpty, List.isEmpty_iff] at empty
  rw [Table.contains, empty]
  rfl

theorem isEmpty_insert (set : KeySet Int) (id : Int) : (set.insert id ()).isEmpty = false := by
  have there : (set.insert id ()).contains id = true := by
    rw [Table.contains_insert, decide_eq_true rfl, Bool.true_or]
  cases empty : (set.insert id ()).isEmpty with
  | false => rfl
  | true =>
    rw [contains_of_isEmpty empty] at there
    exact Bool.noConfusion there

theorem mem_childrenOf_iff {child parent : Int} :
    child ∈ f.childrenOf parent ↔
      ∃ set, f.children.get? parent = some set ∧ set.contains child = true := by
  unfold childrenOf
  cases f.children.get? parent with
  | none => simp
  | some set => simp [Table.mem_keys]

theorem get?_dropChild (f : Forest) (parent child key : Int) :
    (f.dropChild parent child).children.get? key =
      if parent = key then
        (f.children.get? key).bind fun set =>
          if (set.erase child).isEmpty then none else some (set.erase child)
      else f.children.get? key := by
  unfold dropChild
  cases found : f.children.get? parent with
  | none =>
    dsimp only
    split
    · rename_i same
      rw [← same, found]
      rfl
    · rfl
  | some set =>
    dsimp only
    split
    · rename_i last
      rw [show ({ f with children := f.children.erase parent } : Forest).children.get? key =
        (f.children.erase parent).get? key from rfl, Table.get?_erase]
      split
      · rename_i same
        rw [← same, found, Option.bind_some, if_pos last]
      · rfl
    · rename_i others
      rw [show ({ f with children := f.children.insert parent (set.erase child) } :
        Forest).children.get? key = (f.children.insert parent (set.erase child)).get? key from rfl,
        Table.get?_insert]
      split
      · rename_i same
        rw [← same, found, Option.bind_some, if_neg others]
      · rfl

theorem parents_dropChild (f : Forest) (parent child : Int) :
    (f.dropChild parent child).parents = f.parents := by
  unfold dropChild
  split
  · rfl
  · dsimp only
    split <;> rfl

theorem mem_childrenOf_dropChild {parent child key other : Int} :
    other ∈ (f.dropChild parent child).childrenOf key ↔
      other ∈ f.childrenOf key ∧ ¬ (parent = key ∧ child = other) := by
  rw [mem_childrenOf_iff, mem_childrenOf_iff, get?_dropChild]
  by_cases same : parent = key
  · rw [if_pos same]
    cases f.children.get? key with
    | none => simp
    | some set =>
      have erased := Table.contains_erase set child other
      rw [Option.bind_some]
      split
      · rename_i last
        rw [contains_of_isEmpty last] at erased
        by_cases here : child = other
        · simp [here, same]
        · rw [decide_eq_false here, Bool.not_false, Bool.true_and] at erased
          simp [← erased]
      · simp only [Option.some.injEq, exists_eq_left', erased, Bool.and_eq_true, Bool.not_eq_true',
          decide_eq_false_iff_not, same, true_and]
        exact and_comm
  · simp [same]

theorem dropChild_nonempty
    (h : ∀ parent set, f.children.get? parent = some set → set.isEmpty = false)
    (parent child key : Int) (set : KeySet Int)
    (found : (f.dropChild parent child).children.get? key = some set) : set.isEmpty = false := by
  rw [get?_dropChild] at found
  split at found
  · obtain ⟨old, -, rest⟩ := Option.bind_eq_some_iff.mp found
    split at rest
    · cases rest
    · rename_i others
      obtain rfl := Option.some.inj rest
      exact eq_false_of_ne_true others
  · exact h key set found

/-! ### Attaching -/

/-- The forest in which a node is to be attached, taken from its old parent if it has another. -/
def leaving (f : Forest) (child parent : Int) : Forest :=
  match f.parent? child with
  | some old => if old = parent then f else f.dropChild old child
  | none => f

theorem attach_eq (f : Forest) (child parent : Int) :
    f.attach child parent =
      { parents := (f.leaving child parent).parents.insert child parent,
        children := (f.leaving child parent).children.insert parent
          ((((f.leaving child parent).children.get? parent).getD .empty).insert child ()) } := rfl

theorem parents_leaving (f : Forest) (child parent : Int) :
    (f.leaving child parent).parents = f.parents := by
  unfold leaving
  split
  · split
    · rfl
    · exact f.parents_dropChild _ child
  · rfl

theorem parent?_attach (f : Forest) (child parent key : Int) :
    (f.attach child parent).parent? key = if child = key then some parent else f.parent? key := by
  rw [attach_eq, parents_leaving]
  exact Table.get?_insert f.parents child key parent

theorem Coherent.leaving_nonempty (h : Coherent f) (child parent key : Int) (set : KeySet Int)
    (found : (f.leaving child parent).children.get? key = some set) : set.isEmpty = false := by
  unfold leaving at found
  split at found
  · split at found
    · exact h.children_nonempty key set found
    · exact dropChild_nonempty h.children_nonempty _ child key set found
  · exact h.children_nonempty key set found

/-- A node that is about to be attached is a child of no other node than its parent to be. -/
theorem mem_childrenOf_leaving (h : Acknowledged f) (child parent key other : Int) :
    other ∈ (f.leaving child parent).childrenOf key ↔
      other ∈ f.childrenOf key ∧ (child = other → key = parent) := by
  unfold leaving
  cases found : f.parent? child with
  | none =>
    refine (and_iff_left_of_imp fun member => ?_).symm
    rintro rfl
    rw [h child key member] at found
    cases found
  | some old =>
    dsimp only
    split
    · rename_i same
      refine (and_iff_left_of_imp fun member => ?_).symm
      rintro rfl
      rw [h child key member] at found
      exact (Option.some.inj found).trans same
    · rename_i different
      rw [mem_childrenOf_dropChild]
      refine and_congr_right fun member => ?_
      constructor
      · rintro elsewhere rfl
        rw [h child key member] at found
        exact absurd ⟨(Option.some.inj found).symm, rfl⟩ elsewhere
      · rintro moved ⟨rfl, rfl⟩
        exact different (moved rfl)

theorem mem_childrenOf_attach (h : Acknowledged f) (child parent key other : Int) :
    other ∈ (f.attach child parent).childrenOf key ↔
      if child = other then parent = key else other ∈ f.childrenOf key := by
  have before := mem_childrenOf_leaving h child parent key other
  rw [mem_childrenOf_iff] at before
  rw [mem_childrenOf_iff, attach_eq]
  simp only [Table.get?_insert]
  by_cases atParent : parent = key
  · subst atParent
    rw [if_pos rfl]
    simp only [Option.some.injEq, exists_eq_left', Table.contains_insert, Bool.or_eq_true,
      decide_eq_true_eq]
    by_cases here : child = other
    · simp [here]
    · rw [if_neg here]
      cases set : (f.leaving child parent).children.get? parent with
      | none => simpa [set, here] using before
      | some set' => simpa [set, here] using before
  · rw [if_neg atParent, before]
    by_cases here : child = other
    · simp [here, atParent, Ne.symm atParent]
    · simp [here]

theorem attach_acknowledged (h : Acknowledged f) (child parent : Int) :
    Acknowledged (f.attach child parent) := by
  intro other key member
  rw [mem_childrenOf_attach h] at member
  rw [parent?_attach]
  split at member
  · rename_i here
    rw [if_pos here, member]
  · rename_i apart
    rw [if_neg apart]
    exact h other key member

theorem attach_mutual (h : Mutual f) (child parent : Int) : Mutual (f.attach child parent) := by
  intro other key
  rw [mem_childrenOf_attach h.acknowledged, parent?_attach]
  split
  · exact Option.some_inj.symm
  · exact h other key

theorem attach_coherent (h : Coherent f) (child parent : Int) :
    Coherent (f.attach child parent) where
  mem_childrenOf := attach_mutual h.mutual child parent
  children_nonempty := fun key set found => by
    rw [attach_eq] at found
    simp only [Table.get?_insert] at found
    split at found
    · obtain rfl := Option.some.inj found
      exact isEmpty_insert _ child
    · exact h.leaving_nonempty child parent key set found

/-! ### Detaching -/

theorem parent?_detach (f : Forest) (child key : Int) :
    (f.detach child).parent? key = if child = key then none else f.parent? key := by
  unfold detach
  cases found : f.parent? child with
  | none =>
    dsimp only
    split
    · rename_i same
      rw [← same, found]
    · rfl
  | some parent =>
    dsimp only
    rw [parent?, parents_dropChild]
    exact Table.get?_erase f.parents child key

theorem mem_childrenOf_detach (h : Acknowledged f) (child key other : Int) :
    other ∈ (f.detach child).childrenOf key ↔ child ≠ other ∧ other ∈ f.childrenOf key := by
  unfold detach
  cases found : f.parent? child with
  | none =>
    refine (and_iff_right_of_imp fun member => ?_).symm
    rintro rfl
    rw [h child key member] at found
    cases found
  | some parent =>
    dsimp only
    rw [mem_childrenOf_dropChild, and_comm]
    refine and_congr_left fun member => ?_
    rw [show ({ f with parents := f.parents.erase child } : Forest).childrenOf key =
      f.childrenOf key from rfl] at member
    constructor
    · rintro elsewhere rfl
      rw [h child key member] at found
      exact elsewhere ⟨(Option.some.inj found).symm, rfl⟩
    · rintro apart ⟨-, here⟩
      exact apart here

theorem detach_acknowledged (h : Acknowledged f) (child : Int) :
    Acknowledged (f.detach child) := by
  intro other key member
  obtain ⟨apart, before⟩ := (mem_childrenOf_detach h child key other).mp member
  rw [parent?_detach, if_neg apart]
  exact h other key before

theorem detach_nonempty
    (h : ∀ parent set, f.children.get? parent = some set → set.isEmpty = false)
    (child key : Int) (set : KeySet Int)
    (found : (f.detach child).children.get? key = some set) : set.isEmpty = false := by
  unfold detach at found
  split at found
  · exact dropChild_nonempty (f := { f with parents := f.parents.erase child }) h _ child key set
      found
  · exact h key set found

theorem detach_mutual (h : Mutual f) (child : Int) : Mutual (f.detach child) := by
  intro other key
  rw [mem_childrenOf_detach h.acknowledged, parent?_detach, h other key]
  split
  · rename_i here
    simp [here]
  · rename_i apart
    simp [apart]

theorem detach_coherent (h : Coherent f) (child : Int) : Coherent (f.detach child) where
  mem_childrenOf := detach_mutual h.mutual child
  children_nonempty := detach_nonempty h.children_nonempty child

/-! ### Releasing -/

/-- The new parent of a child, unless it is the child itself. -/
def heirOf (heir : Option Int) (child : Int) : Option Int := heir.filter fun parent => parent ≠ child

theorem heirOf_eq_some {heir : Option Int} {child parent : Int} :
    heirOf heir child = some parent ↔ heir = some parent ∧ parent ≠ child := by
  rw [heirOf, Option.filter_eq_some_iff]
  simp

theorem moveChildren_cons (f : Forest) (heir : Option Int) (child : Int) (rest : List Int) :
    f.moveChildren heir (child :: rest) =
      (match heirOf heir child with
        | some parent => f.attach child parent
        | none => f.detach child).moveChildren heir rest := by
  unfold moveChildren
  rw [List.foldl_cons]
  cases heir with
  | none => rfl
  | some parent =>
    by_cases same : parent = child
    · simp [heirOf, Option.filter, same]
    · simp [heirOf, Option.filter, same]

theorem parent?_moveChildren (f : Forest) (heir : Option Int) (children : List Int) (key : Int) :
    (f.moveChildren heir children).parent? key =
      if key ∈ children then heirOf heir key else f.parent? key := by
  induction children generalizing f with
  | nil => rfl
  | cons child rest ih =>
    have moved : (match heirOf heir child with
        | some parent => f.attach child parent
        | none => f.detach child).parent? key =
          if child = key then heirOf heir child else f.parent? key := by
      cases heirOf heir child with
      | none => exact f.parent?_detach child key
      | some parent => exact f.parent?_attach child parent key
    rw [moveChildren_cons, ih, moved]
    by_cases later : key ∈ rest
    · simp [later]
    · by_cases here : child = key
      · simp [here]
      · simp [later, here, Ne.symm here]

/-- What becomes of the children one by one. -/
theorem moveChildren_keeps {P : Forest → Prop}
    (attach : ∀ f, P f → ∀ child parent, P (f.attach child parent))
    (detach : ∀ f, P f → ∀ child, P (f.detach child)) (h : P f) (heir : Option Int)
    (children : List Int) : P (f.moveChildren heir children) := by
  induction children generalizing f with
  | nil => exact h
  | cons child rest ih =>
    rw [moveChildren_cons]
    apply ih
    split
    · exact attach f h child _
    · exact detach f h child

theorem moveChildren_coherent (h : Coherent f) (heir : Option Int) (children : List Int) :
    Coherent (f.moveChildren heir children) :=
  moveChildren_keeps (fun _ => attach_coherent) (fun _ => detach_coherent) h heir children

theorem mem_childrenOf_moveChildren (h : Acknowledged f) (heir : Option Int)
    (children : List Int) (key other : Int) :
    other ∈ (f.moveChildren heir children).childrenOf key ↔
      if other ∈ children then heirOf heir other = some key else other ∈ f.childrenOf key := by
  induction children generalizing f with
  | nil => rfl
  | cons child rest ih =>
    rw [moveChildren_cons]
    cases new : heirOf heir child with
    | none =>
      dsimp only
      rw [ih (detach_acknowledged h child), mem_childrenOf_detach h]
      by_cases later : other ∈ rest
      · simp [later]
      · by_cases here : child = other
        · subst here
          simp [later, new]
        · simp [later, here, Ne.symm here]
    | some parent =>
      dsimp only
      rw [ih (attach_acknowledged h child parent), mem_childrenOf_attach h]
      by_cases later : other ∈ rest
      · simp [later]
      · by_cases here : child = other
        · subst here
          simp [later, new]
        · simp [later, here, Ne.symm here]

/-- Who takes over the children of a node. -/
def successor (f : Forest) (id : Int) (heir : Option Int) : Option Int :=
  heir.orElse fun _ => f.parent? id

theorem parent?_release (f : Forest) (id : Int) (heir : Option Int) (key : Int) :
    (f.release id heir).parent? key =
      if key ∈ f.childrenOf id then heirOf (f.successor id heir) key else f.parent? key :=
  f.parent?_moveChildren (f.successor id heir) (f.childrenOf id) key

theorem Mutual.parent?_release (h : Mutual f) (id : Int) (heir : Option Int) (key : Int) :
    (f.release id heir).parent? key =
      if f.parent? key = some id then heirOf (f.successor id heir) key else f.parent? key := by
  rw [Forest.parent?_release]
  simp only [h key id]

theorem Coherent.parent?_release (h : Coherent f) (id : Int) (heir : Option Int) (key : Int) :
    (f.release id heir).parent? key =
      if f.parent? key = some id then heirOf (f.successor id heir) key else f.parent? key :=
  h.mutual.parent?_release id heir key

theorem get?_children_release (f : Forest) (id : Int) (heir : Option Int) (key : Int) :
    (f.release id heir).children.get? key =
      if id = key then none
      else (f.moveChildren (f.successor id heir) (f.childrenOf id)).children.get? key :=
  Table.get?_erase _ id key

theorem mem_childrenOf_release (h : Acknowledged f) (id : Int) (heir : Option Int)
    (key other : Int) :
    other ∈ (f.release id heir).childrenOf key ↔ id ≠ key ∧
      if other ∈ f.childrenOf id then heirOf (f.successor id heir) other = some key
      else other ∈ f.childrenOf key := by
  rw [mem_childrenOf_iff, get?_children_release]
  split
  · rename_i here
    simp [here]
  · rename_i apart
    rw [← mem_childrenOf_iff, mem_childrenOf_moveChildren h]
    exact (and_iff_right apart).symm

theorem release_acknowledged (h : Acknowledged f) (id : Int) (heir : Option Int) :
    Acknowledged (f.release id heir) := by
  intro other key member
  obtain ⟨-, found⟩ := (mem_childrenOf_release h id heir key other).mp member
  rw [parent?_release]
  split at found
  · rename_i moved
    rw [if_pos moved, found]
  · rename_i stayed
    rw [if_neg stayed]
    exact h other key found

/-- Nobody is a child of the released node any more, so that its set of children is gone before it
is dropped. -/
theorem release_mutual (h : Mutual f) {id : Int} (heir : Option Int)
    (other : f.successor id heir ≠ some id) : Mutual (f.release id heir) := by
  intro child parent
  rw [mem_childrenOf_release h.acknowledged, parent?_release]
  split
  · refine and_iff_right_of_imp fun moved => ?_
    rintro rfl
    exact other (Option.filter_eq_some_iff.mp moved).1
  · rename_i stayed
    rw [h child parent]
    refine and_iff_right_of_imp fun known => ?_
    rintro rfl
    exact stayed ((h child id).mpr known)

theorem release_coherent (h : Coherent f) {id : Int} (heir : Option Int)
    (other : f.successor id heir ≠ some id) : Coherent (f.release id heir) where
  mem_childrenOf := release_mutual h.mutual heir other
  children_nonempty := fun parent set found => by
    rw [get?_children_release] at found
    split at found
    · cases found
    · exact (moveChildren_coherent h _ _).children_nonempty parent set found

/-! ### Removing -/

theorem Mutual.parent?_remove (h : Mutual f) (id key : Int) :
    (f.remove id).parent? key =
      if id = key then none
      else if f.parent? key = some id then heirOf (f.parent? id) key
      else f.parent? key := by
  rw [remove, parent?_detach, h.parent?_release]
  rfl

theorem Coherent.parent?_remove (h : Coherent f) (id key : Int) :
    (f.remove id).parent? key =
      if id = key then none
      else if f.parent? key = some id then heirOf (f.parent? id) key
      else f.parent? key :=
  h.mutual.parent?_remove id key

theorem remove_acknowledged (h : Acknowledged f) (id : Int) : Acknowledged (f.remove id) :=
  detach_acknowledged (release_acknowledged h id none) id

theorem remove_mutual (h : Mutual f) {id : Int} (other : f.parent? id ≠ some id) :
    Mutual (f.remove id) :=
  detach_mutual (release_mutual h none other) id

theorem remove_coherent (h : Coherent f) {id : Int} (other : f.parent? id ≠ some id) :
    Coherent (f.remove id) :=
  detach_coherent (release_coherent h none other) id

end GrowthGrammar.Forest
