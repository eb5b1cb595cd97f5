import GrowthGrammar.Proofs.Work
import GrowthGrammar.RunSort

/-!
Sorting with a comparison that may fail: where any two of the items can be compared, the sort comes
to its end, and all that it gives are items.
-/
namespace GrowthGrammar

theorem Work.foldlM_ok {ε α β : Type} {P : β → Prop} {f : β → α → Except ε β} {items : List α}
    (step : ∀ b, P b → ∀ a ∈ items, ∃ b', f b a = .ok b' ∧ P b') {b : β} (start : P b) :
    ∃ b', items.foldlM f b = .ok b' ∧ P b' := by
  induction items generalizing b with
  | nil => exact ⟨b, rfl, start⟩
  | cons a rest ih =>
    obtain ⟨first, given, next⟩ := step b start a List.mem_cons_self
    rw [List.foldlM_cons, given]
    exact ih (fun b later a member => step b later a (List.mem_cons_of_mem _ member)) next

namespace RunSort

variable {ε α : Type} {before : Order ε α} {P : α → Prop}

/-- Whether any two items of a kind can be compared. -/
def Comparable (before : Order ε α) (P : α → Prop) : Prop :=
  ∀ x y, P x → P y → ∃ answer, before x y = .ok answer

/-- Runs of items of a kind. -/
def Holds (P : α → Prop) (stack : List (Run α)) : Prop := ∀ run ∈ stack, ∀ a ∈ run.items, P a

theorem holds_cons {run : Run α} {stack : List (Run α)} :
    Holds P (run :: stack) ↔ (∀ a ∈ run.items, P a) ∧ Holds P stack := List.forall_mem_cons

section Comparable

variable (comparable : Comparable before P)

include comparable

theorem runLength_ok (descending : Bool) {last : α} {items : List α} (here : P last)
    (there : ∀ a ∈ items, P a) : ∃ count, runLength before descending last items = .ok count := by
  induction items generalizing last with
  | nil => exact ⟨0, rfl⟩
  | cons item rest ih =>
    obtain ⟨own, others⟩ := List.forall_mem_cons.mp there
    obtain ⟨answer, compared⟩ := comparable item last own here
    obtain ⟨count, later⟩ := ih own others
    rw [runLength, compared]
    show ∃ count, (if answer == descending then _ else _) = _
    split
    · rw [later]
      exact ⟨count + 1, rfl⟩
    · exact ⟨0, rfl⟩

theorem firstRun_ok {items : List α} (there : ∀ a ∈ items, P a) :
    ∃ run rest, firstRun before items = .ok (run, rest) ∧ (∀ a ∈ run, P a) ∧ ∀ a ∈ rest, P a := by
  match items with
  | [] => exact ⟨[], [], rfl, there, there⟩
  | [a] => exact ⟨[a], [], rfl, there, fun _ member => absurd member List.not_mem_nil⟩
  | first :: second :: rest =>
    have own := there second (List.mem_cons_of_mem _ List.mem_cons_self)
    obtain ⟨descending, compared⟩ :=
      comparable second first own (there first List.mem_cons_self)
    obtain ⟨count, counted⟩ := runLength_ok comparable descending own
      fun a member => there a (List.mem_cons_of_mem _ (List.mem_cons_of_mem _ member))
    rw [firstRun, compared]
    show ∃ run rest, (runLength before descending second _ >>= _) = _ ∧ _
    rw [counted]
    refine ⟨_, _, rfl, fun a member => ?_, fun a member => there a (List.mem_of_mem_drop member)⟩
    refine there a (List.mem_of_mem_take (i := count + 2) ?_)
    split at member
    · exact List.mem_reverse.mp member
    · exact member

theorem placeFor_ok (sorted : Array α) {item : α} (here : P item) (there : ∀ a ∈ sorted, P a)
    (fuel low high : Nat) : ∃ place, placeFor before sorted item fuel low high = .ok place := by
  induction fuel generalizing low high with
  | zero => exact ⟨low, rfl⟩
  | succ fuel ih =>
    unfold placeFor
    split
    · dsimp only
      split
      · exact ⟨low, rfl⟩
      · rename_i other found
        obtain ⟨answer, compared⟩ :=
          comparable item other here (there other (Array.mem_of_getElem? found))
        rw [compared]
        cases answer with
        | true => exact ih low _
        | false => exact ih _ high
    · exact ⟨low, rfl⟩

theorem insert_ok {sorted : List α} {item : α} (there : ∀ a ∈ sorted, P a) (here : P item) :
    ∃ items, insert before sorted item = .ok items ∧ ∀ a ∈ items, P a := by
  obtain ⟨place, found⟩ := placeFor_ok comparable sorted.toArray here
    (fun a member => there a (List.mem_toArray.mp member)) sorted.length 0 sorted.length
  rw [insert, found]
  refine ⟨_, rfl, fun a member => ?_⟩
  rcases List.mem_append.mp member with early | late
  · exact there a (List.mem_of_mem_take early)
  · rcases List.mem_cons.mp late with rfl | late
    · exact here
    · exact there a (List.mem_of_mem_drop late)

theorem runs_ok (least fuel start : Nat) {items : List α} (there : ∀ a ∈ items, P a) :
    ∃ found, runs before least fuel start items = .ok found ∧ Holds P found := by
  induction fuel generalizing start items with
  | zero => exact ⟨[], rfl, fun _ member => absurd member List.not_mem_nil⟩
  | succ fuel ih =>
    cases items with
    | nil => exact ⟨[], rfl, fun _ member => absurd member List.not_mem_nil⟩
    | cons item others =>
      obtain ⟨run, rest, cut, own, later⟩ := firstRun_ok comparable there
      obtain ⟨filled, inserted, within⟩ := Work.foldlM_ok
        (P := fun sorted => ∀ a ∈ sorted, P a)
        (fun sorted within a (member : a ∈ rest.take (least - run.length)) =>
          insert_ok comparable within (later a (List.mem_of_mem_take member))) own
      have unsorted : ∀ a ∈ rest.drop (least - run.length), P a := fun a member =>
        later a (List.mem_of_mem_drop member)
      obtain ⟨found, more, holds⟩ := ih (start + filled.length) unsorted
      unfold runs
      rw [cut]
      show ∃ found, (List.foldlM (insert before) run _ >>= _) = _ ∧ _
      rw [inserted]
      show ∃ found, (runs before least fuel (start + filled.length) _ >>= _) = _ ∧ _
      rw [more]
      exact ⟨_, rfl, holds_cons.mpr ⟨within, holds⟩⟩

theorem merge_ok {left right : List α} (first : ∀ a ∈ left, P a) (second : ∀ a ∈ right, P a) :
    ∃ items, merge before left right = .ok items ∧ ∀ a ∈ items, P a := by
  fun_induction merge before left right with
  | case1 right => exact ⟨right, rfl, second⟩
  | case2 left => exact ⟨left, rfl, first⟩
  | case3 x left y right ih ih' =>
    obtain ⟨own, others⟩ := List.forall_mem_cons.mp first
    obtain ⟨own', others'⟩ := List.forall_mem_cons.mp second
    obtain ⟨answer, compared⟩ := comparable y x own' own
    rw [compared]
    cases answer with
    | true =>
      obtain ⟨items, merged, within⟩ := ih first others'
      exact ⟨y :: items, by simp only [Work.ok_bind, if_true, merged]; rfl,
        List.forall_mem_cons.mpr ⟨own', within⟩⟩
    | false =>
      obtain ⟨items, merged, within⟩ := ih' others second
      exact ⟨x :: items, by simp only [Work.ok_bind, merged]; rfl,
        List.forall_mem_cons.mpr ⟨own, within⟩⟩

theorem settle_ok (depth : Nat) {last : Run α} {stack : List (Run α)}
    (own : ∀ a ∈ last.items, P a) (holds : Holds P stack) :
    ∃ settled, settle before depth last stack = .ok settled ∧ Holds P settled := by
  induction stack generalizing last with
  | nil => exact ⟨_, rfl, holds_cons.mpr ⟨own, holds⟩⟩
  | cons run rest ih =>
    obtain ⟨top, others⟩ := holds_cons.mp holds
    rw [settle]
    split
    · obtain ⟨items, merged, within⟩ := merge_ok comparable top own
      rw [merged]
      exact ih within others
    · exact ⟨_, rfl, holds_cons.mpr ⟨own, holds⟩⟩

theorem push_ok (size : Nat) {stack : List (Run α)} {next : Run α} (holds : Holds P stack)
    (own : ∀ a ∈ next.items, P a) :
    ∃ pushed, push before size stack next = .ok pushed ∧ Holds P pushed := by
  cases stack with
  | nil => exact ⟨_, rfl, holds_cons.mpr ⟨own, holds⟩⟩
  | cons last rest =>
    obtain ⟨top, others⟩ := holds_cons.mp holds
    obtain ⟨settled, done, within⟩ :=
      settle_ok comparable (depthBetween size last next) top others
    rw [push, done]
    exact ⟨_, rfl, holds_cons.mpr ⟨own, within⟩⟩

theorem collapse_ok {stack : List (Run α)} (holds : Holds P stack) :
    ∃ items, collapse before stack = .ok items ∧ ∀ a ∈ items, P a := by
  fun_induction collapse before stack with
  | case1 => exact ⟨[], rfl, fun _ member => absurd member List.not_mem_nil⟩
  | case2 run => exact ⟨run.items, rfl, (holds_cons.mp holds).1⟩
  | case3 last run =>
    obtain ⟨top, others⟩ := holds_cons.mp holds
    exact merge_ok comparable (holds_cons.mp others).1 top
  | case4 last run first rest shorter ih =>
    obtain ⟨top, others⟩ := holds_cons.mp holds
    obtain ⟨middle, others⟩ := holds_cons.mp others
    obtain ⟨bottom, others⟩ := holds_cons.mp others
    obtain ⟨items, merged, within⟩ := merge_ok comparable bottom middle
    rw [merged]
    exact ih items (holds_cons.mpr ⟨top, holds_cons.mpr ⟨within, others⟩⟩)
  | case5 last run first rest shorter ih =>
    obtain ⟨top, others⟩ := holds_cons.mp holds
    obtain ⟨middle, others⟩ := holds_cons.mp others
    obtain ⟨bottom, others⟩ := holds_cons.mp others
    obtain ⟨items, merged, within⟩ := merge_ok comparable middle top
    rw [merged]
    exact ih items (holds_cons.mpr ⟨within, holds_cons.mpr ⟨bottom, others⟩⟩)

end Comparable

end RunSort

/-- A sort of items that can all be compared gives items, and does not fail. -/
theorem runSort_ok {ε α : Type} {before : α → α → Except ε Bool} {items : List α}
    (comparable : ∀ x ∈ items, ∀ y ∈ items, ∃ answer, before x y = .ok answer) :
    ∃ sorted, runSort before items = .ok sorted ∧ ∀ a ∈ sorted, a ∈ items := by
  have among : RunSort.Comparable before (· ∈ items) :=
    fun x y first second => comparable x first y second
  obtain ⟨found, cut, holds⟩ := RunSort.runs_ok among (RunSort.leastRun items.length)
    items.length 0 fun a (member : a ∈ items) => member
  obtain ⟨stack, pushed, within⟩ := Work.foldlM_ok (P := RunSort.Holds (· ∈ items))
    (f := RunSort.push before items.length)
    (fun stack within run (member : run ∈ found) =>
      RunSort.push_ok among _ within (holds run member))
    (b := []) fun _ member => absurd member List.not_mem_nil
  obtain ⟨sorted, done, members⟩ := RunSort.collapse_ok among within
  refine ⟨sorted, ?_, members⟩
  rw [runSort]
  simp only [cut, Work.ok_bind, pushed, done]

/-- A single item is compared with no other. -/
theorem runSort_singleton {ε α : Type} (before : α → α → Except ε Bool) (a : α) :
    runSort before [a] = .ok [a] := by
  have cut (least : Nat) : RunSort.runs before least 1 0 [a] = .ok [⟨0, [a], 0⟩] := by
    have first : RunSort.firstRun before [a] = .ok ([a], []) := rfl
    unfold RunSort.runs
    simp only [first, Work.ok_bind, List.take_nil, List.drop_nil, List.foldlM_nil]
    rfl
  rw [runSort, List.length_singleton]
  simp only [cut, Work.ok_bind]
  show RunSort.collapse before [⟨0, [a], 0⟩] = _
  rw [RunSort.collapse]

end GrowthGrammar
