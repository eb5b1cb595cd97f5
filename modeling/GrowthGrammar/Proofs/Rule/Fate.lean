import GrowthGrammar.Proofs.Rule.Keeping
import Mathlib.Algebra.BigOperators.Group.List.Basic

/-!
Fates: what procedures do one after the other is foretold, in numbers, from their pattern ids alone.
A match binds different nodes, all of them there when its procedures begin, so that only those fail
that name what earlier ones have taken away.
-/
namespace GrowthGrammar

/-! ### Tallies -/

namespace Tally

instance : Zero Tally := ⟨⟨0, 0, 0, 0⟩⟩

instance : Add Tally :=
  ⟨fun t u => ⟨t.removed + u.removed, t.added + u.added, t.modified + u.modified,
    t.failures + u.failures⟩⟩

theorem add_eq (t u : Tally) : t + u = ⟨t.removed + u.removed, t.added + u.added,
    t.modified + u.modified, t.failures + u.failures⟩ := rfl

theorem zero_eq : (0 : Tally) = ⟨0, 0, 0, 0⟩ := rfl

instance : AddCommMonoid Tally where
  add_assoc t u v := by simp only [add_eq, Nat.add_assoc]
  zero_add t := by simp only [add_eq, zero_eq, Nat.zero_add]
  add_zero t := by simp only [add_eq, zero_eq, Nat.add_zero]
  add_comm t u := by simp only [add_eq, Nat.add_comm]
  nsmul := nsmulRec

theorem nsmul_eq (k : Nat) (t : Tally) :
    k • t = ⟨k * t.removed, k * t.added, k * t.modified, k * t.failures⟩ := by
  induction k with
  | zero => rw [zero_nsmul, zero_eq, Nat.zero_mul, Nat.zero_mul, Nat.zero_mul, Nat.zero_mul]
  | succ k ih => simp only [succ_nsmul, ih, add_eq, Nat.succ_mul]

end Tally

namespace Outcome

def modifiedIds : Outcome → List Int
  | .modified ids => ids
  | _ => []

def tally (o : Outcome) : Tally :=
  ⟨o.removedIds.length, o.addedIds.length, o.modifiedIds.length, if o.isFailure then 1 else 0⟩

end Outcome

/-! ### What procedures consume -/

namespace Procedure

/-- The pattern ids whose nodes the procedure takes away. -/
def consumed : Procedure → List Int
  | .delete target => [target]
  | .merge targets survivor => (merge targets survivor).references.filter (· ≠ survivor)
  | _ => []

/-- What the procedure does when all its nodes are there, in numbers. -/
def effect : Procedure → Tally
  | .replace .. => ⟨0, 0, 1, 0⟩
  | .add .. => ⟨0, 1, 0, 0⟩
  | p => ⟨p.consumed.length, 0, 0, 0⟩

/-- What procedures do one after the other, in numbers, when the nodes of some pattern ids are gone
and all others are there. A procedure that names one of those gone fails and consumes nothing. -/
def fates (gone : List Int) : List Procedure → List Tally
  | [] => []
  | p :: rest =>
    if p.references.any (· ∈ gone) then ⟨0, 0, 0, 1⟩ :: fates gone rest
    else p.effect :: fates (p.consumed ++ gone) rest

variable {b b' : Bindings} {s t : Scene} {p : Procedure} {o : Outcome} {survivor : Int}
  {references ids gone : List Int} {procedures : List Procedure}

theorem effect_removed (p : Procedure) : p.effect.removed = p.consumed.length := by
  cases p <;> rfl

theorem effect_failures (p : Procedure) : p.effect.failures = 0 := by
  cases p <;> rfl

/-- A procedure fails only if what it names is gone from the start or consumed by one before that
does not fail. -/
theorem consumed_before_failure {i : Nat} {fate : Tally} (here : procedures[i]? = some p)
    (found : (fates gone procedures)[i]? = some fate) (fails : fate.failures ≠ 0) :
    ∃ n ∈ p.references, n ∈ gone ∨ ∃ j < i, ∃ q, procedures[j]? = some q ∧
      (fates gone procedures)[j]? = some q.effect ∧ n ∈ q.consumed := by
  induction procedures generalizing gone i with
  | nil => cases here
  | cons first rest ih =>
    cases i with
    | zero =>
      obtain rfl := Option.some.inj here
      rw [fates] at found
      split at found
      · rename_i blocked
        obtain ⟨n, named, member⟩ := List.any_eq_true.mp blocked
        exact ⟨n, named, .inl (of_decide_eq_true member)⟩
      · obtain rfl := Option.some.inj found
        exact absurd first.effect_failures fails
    | succ i =>
      -- What the first consumes is gone for the others, unless it is blocked itself.
      by_cases blocked : first.references.any (· ∈ gone) = true
      · rw [fates, if_pos blocked] at found ⊢
        obtain ⟨n, named, before | ⟨j, less, before⟩⟩ := ih here found
        · exact ⟨n, named, .inl before⟩
        · exact ⟨n, named, .inr ⟨j + 1, by omega, before⟩⟩
      · rw [fates, if_neg blocked] at found ⊢
        obtain ⟨n, named, before | ⟨j, less, before⟩⟩ := ih here found
        · rcases List.mem_append.mp before with own | before
          · exact ⟨n, named, .inr ⟨0, by omega, first, rfl, rfl, own⟩⟩
          · exact ⟨n, named, .inl before⟩
        · exact ⟨n, named, .inr ⟨j + 1, by omega, before⟩⟩

theorem no_failures_of_no_removed (nothing : (fates [] procedures).sum.removed = 0) :
    (fates [] procedures).sum.failures = 0 := by
  induction procedures with
  | nil => rfl
  | cons p rest ih =>
    have unblocked : p.references.any (· ∈ ([] : List Int)) = false := by simp
    rw [fates, if_neg (ne_true_of_eq_false unblocked), List.sum_cons, Tally.add_eq] at nothing ⊢
    have none : p.consumed = [] := by
      rw [← List.length_eq_zero_iff, ← effect_removed]
      exact (Nat.add_eq_zero_iff.mp nothing).1
    rw [none, List.append_nil] at nothing ⊢
    show p.effect.failures + (fates [] rest).sum.failures = 0
    rw [effect_failures, ih (Nat.add_eq_zero_iff.mp nothing).2]

/-! ### What a procedure does to the bindings -/

theorem Ends.of_ok (ends : Ends s b p (.ok (o, b')) t) :
    p.targetsLive b s = false ∧ o = .failed ∧ b' = b ∧ t = s ∨
      p.targetsLive b s = true ∧ Does s b p o b' t := by
  cases ends with
  | failed missing => exact .inl ⟨missing, rfl, rfl, rfl⟩
  | done fulfilled does => exact .inr ⟨fulfilled, does⟩

theorem map_fst_absorbed (live : references.map (b.live? s) = ids.map some)
    (injective : b.values.Nodup) {id : Int} (bound : b.get? survivor = some id) :
    ((references.zip ids).filter fun e => e.2 ≠ id).map (·.1) =
      references.filter (· ≠ survivor) := by
  induction references generalizing ids with
  | nil => rfl
  | cons n rest ih =>
    cases ids with
    | nil => cases live
    | cons other others =>
      obtain ⟨found, later⟩ := List.cons_eq_cons.mp live
      have first := (Bindings.live?_eq_some_iff.mp found).1
      -- The survivor is told apart by its pattern id as well as by its node.
      have same : other = id ↔ n = survivor := by
        constructor
        · rintro rfl
          exact Bindings.key_eq_of_get? injective first bound
        · rintro rfl
          exact Option.some.inj (first.symm.trans bound)
      rw [List.zip_cons_cons, List.filter_cons, List.filter_cons]
      by_cases here : n = survivor
      · simpa [here, same.mpr here] using ih later
      · have different : other ≠ id := fun equal => here (same.mp equal)
        simpa [here, different] using ih later

theorem get?_foldl_erase (b : Bindings) (absorbed : List (Int × Int)) (n : Int) :
    (absorbed.foldl (fun b e => b.erase e.1) b).get? n =
      if n ∈ absorbed.map (·.1) then none else b.get? n := by
  induction absorbed generalizing b with
  | nil => rfl
  | cons e rest ih =>
    rw [List.foldl_cons, ih, Catalog.get?_erase]
    by_cases here : e.1 = n
    · rw [if_pos here, ite_self, if_pos]
      exact here ▸ List.mem_cons_self
    · rw [if_neg here]
      simp only [List.map_cons, List.mem_cons, Ne.symm here, false_or]

theorem Does.get? (does : Does s b p o b' t) (injective : b.values.Nodup) (n : Int) :
    b'.get? n = if n ∈ p.consumed then none else b.get? n := by
  cases does with
  | @delete target id found =>
    rw [Catalog.get?_erase]
    simp [consumed, eq_comm]
  | replace node found => rfl
  | add node live => rfl
  | merge live bound => rw [get?_foldl_erase, map_fst_absorbed live injective bound, consumed]

theorem Does.values_sublist (does : Does s b p o b' t) : b'.values.Sublist b.values := by
  cases does with
  | delete found => exact b.values_erase _
  | replace node found => exact .refl _
  | add node live => exact .refl _
  | merge live bound => exact values_foldl_erase b _

theorem Does.tally (does : Does s b p o b' t) (injective : b.values.Nodup) :
    o.tally = p.effect := by
  cases does with
  | @merge targets ids survivor id live bound =>
    have taken : (ids.filter (· ≠ id)).length =
        (Procedure.merge targets survivor).consumed.length := by
      rw [← map_snd_absorbed live id, consumed, ← map_fst_absorbed live injective bound,
        List.length_map, List.length_map]
    show (⟨(ids.filter (· ≠ id)).length, 0, 0, 0⟩ : Tally) = _
    rw [taken]
    rfl
  | _ => rfl

/-- What is taken away is what the consumed pattern ids are bound to. -/
theorem Does.removedIds (does : Does s b p o b' t) {id : Int} (taken : id ∈ o.removedIds) :
    ∃ n ∈ p.consumed, b.get? n = some id := by
  cases does with
  | @delete target other found =>
    obtain rfl := List.mem_singleton.mp taken
    exact ⟨target, List.mem_cons_self, (Bindings.live?_eq_some_iff.mp found).1⟩
  | replace node found => exact absurd taken List.not_mem_nil
  | add node live => exact absurd taken List.not_mem_nil
  | @merge targets ids survivor kept live bound =>
    obtain ⟨member, other⟩ := List.mem_filter.mp taken
    have listed : some id ∈ (Procedure.merge targets survivor).references.map (b.live? s) :=
      live ▸ List.mem_map_of_mem member
    obtain ⟨n, named, found⟩ := List.mem_map.mp listed
    have first := (Bindings.live?_eq_some_iff.mp found).1
    refine ⟨n, List.mem_filter.mpr ⟨named, decide_eq_true ?_⟩, first⟩
    rintro rfl
    exact of_decide_eq_true other (Option.some.inj (first.symm.trans bound))

/-! ### Matches in the middle of their procedures -/

/-- A match some of whose procedures are done: the nodes of the pattern ids that are gone are not
bound any more, and all others that the remaining procedures name are there. -/
structure Standing (s : Scene) (b : Bindings) (gone : List Int) (procedures : List Procedure) :
    Prop where
  sound : s.Sound
  injective : b.values.Nodup
  unbound : ∀ n ∈ gone, b.get? n = none
  live : ∀ p ∈ procedures, ∀ n ∈ p.references, n ∉ gone → (b.live? s n).isSome = true

theorem Standing.targetsLive (h : Standing s b gone (p :: procedures)) :
    p.targetsLive b s = !p.references.any (· ∈ gone) := by
  cases blocked : p.references.any (· ∈ gone) with
  | false =>
    refine List.all_eq_true.mpr fun n named => h.live p List.mem_cons_self n named fun member => ?_
    rw [List.any_eq_false] at blocked
    exact blocked n named (decide_eq_true member)
  | true =>
    obtain ⟨n, named, member⟩ := List.any_eq_true.mp blocked
    refine not_all_live named ?_
    rw [Bindings.live?, h.unbound n (of_decide_eq_true member)]
    rfl

theorem Standing.rest (h : Standing s b gone (p :: procedures)) :
    Standing s b gone procedures :=
  { h with live := fun q member => h.live q (List.mem_cons_of_mem _ member) }

theorem Standing.does (h : Standing s b gone (p :: procedures)) (does : Does s b p o b' t) :
    Standing t b' (p.consumed ++ gone) procedures where
  sound := does.sound h.sound
  injective := h.injective.sublist does.values_sublist
  unbound := fun n member => by
    rw [does.get? h.injective]
    split
    · rfl
    · rename_i other
      exact h.unbound n ((List.mem_append.mp member).resolve_left other)
  live := fun q member n named apart => by
    obtain ⟨other, before⟩ := not_or.mp (mt List.mem_append.mpr apart)
    obtain ⟨id, found⟩ := Option.isSome_iff_exists.mp
      (h.live q (List.mem_cons_of_mem _ member) n named before)
    obtain ⟨bound, there⟩ := Bindings.live?_eq_some_iff.mp found
    have stays : t.contains id = true := by
      refine (does.contains id).mpr (.inl ⟨there, fun taken => ?_⟩)
      obtain ⟨m, own, first⟩ := does.removedIds taken
      exact other (Bindings.key_eq_of_get? h.injective first bound ▸ own)
    have still : b'.get? n = some id := by rw [does.get? h.injective, if_neg other, bound]
    rw [Bindings.live?_eq_some_iff.mpr ⟨still, stays⟩]
    rfl

end Procedure

end GrowthGrammar
