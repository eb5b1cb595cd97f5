import GrowthGrammar.Proofs.Search.Enumeration

/-!
Limits: a search that is told how many matches are enough gives the first of all matches, in the
same order. Whether there are enough is asked after every match, so the search gives one even where
none at all was wanted.
-/
namespace GrowthGrammar

namespace Matcher

variable {m : Matcher} {s : Scene}

theorem Sound.takeUntil (h : Sound m) (s : Scene) (limit : Int) (count : Nat) :
    (takeUntil s (fun count => limit ≤ count) count m).1 =
      (m.pending s).take (max 1 (limit - count).toNat) := by
  fun_induction Matcher.takeUntil s (fun count => limit ≤ count) count m with
  | case1 count m m' found =>
    obtain ⟨first, -, -⟩ := h.next s
    rw [found] at first
    rw [List.head?_eq_none_iff.mp first.symm, List.take_nil]
  | case2 count m b m' found enough =>
    obtain ⟨first, -, -⟩ := h.next s
    rw [found] at first
    have reached : limit ≤ ((count + 1 : Nat) : Int) := of_decide_eq_true enough
    have one : max 1 (limit - count).toNat = 1 := by omega
    rw [one, List.take_one, ← first]
    rfl
  | case3 count m b m' found few rest m'' taken ih =>
    obtain ⟨first, later, sound⟩ := h.next s
    rw [found] at first later sound
    have short : ¬ limit ≤ ((count + 1 : Nat) : Int) := fun reached =>
      few (decide_eq_true reached)
    have one_less : max 1 (limit - count).toNat =
        max 1 (limit - (count + 1 : Nat)).toNat + 1 := by omega
    have others := ih sound
    rw [taken, later] at others
    have all : m.pending s = b :: (m.pending s).tail := (List.cons_head?_tail first.symm).symm
    rw [all, one_less, List.take_succ_cons]
    exact congrArg (b :: ·) others

end Matcher

namespace Pattern

variable {s : Scene} {p : Pattern} {checkValues symmetryBreaking : Bool}

/-- A limited search gives as many of all matches as the limit admits, from the first one on, but
one match at least. So it gives just what the limit admits unless that is nothing and there is a
match. -/
theorem find_limited (s : Scene) (p : Pattern) (checkValues symmetryBreaking : Bool)
    (limit : Int) :
    (s.find p checkValues symmetryBreaking (some limit)).1 =
      (s.find p checkValues symmetryBreaking none).1.take (max 1 limit.toNat) ∧
    ((s.find p checkValues symmetryBreaking (some limit)).1 =
        (s.find p checkValues symmetryBreaking none).1.take limit.toNat ↔
      1 ≤ limit ∨ (s.find p checkValues symmetryBreaking none).1 = []) := by
  have sound := Matcher.sound_ofPattern s p checkValues symmetryBreaking
  have limited : (s.find p checkValues symmetryBreaking (some limit)).1 =
      (s.find p checkValues symmetryBreaking none).1.take (max 1 limit.toNat) := by
    have all : (s.find p checkValues symmetryBreaking none).1 = _ := sound.rest s
    have few := sound.takeUntil s limit 0
    rw [Int.natCast_zero, Int.sub_zero] at few
    rw [all]
    exact few
  refine ⟨limited, ?_⟩
  rw [limited]
  generalize (s.find p checkValues symmetryBreaking none).1 = all
  constructor
  · intro same
    by_cases wanted : 1 ≤ limit
    · exact .inl wanted
    · right
      have nothing : limit.toNat = 0 := by omega
      rw [nothing, List.take_zero, List.take_eq_nil_iff] at same
      exact same.resolve_left Nat.one_ne_zero
  · rintro (wanted | rfl)
    · have positive : max 1 limit.toNat = limit.toNat := by omega
      rw [positive]
    · rw [List.take_nil, List.take_nil]

/-- One node, which anything may be. -/
def lone : Pattern := ⟨[{ id := 1 }], [], by decide, by decide⟩

/-- A search for at most no match of one node, where there is one, finds it. -/
theorem lone_found_beyond_limit :
    let s := (Scene.empty.insert {}).2
    (s.find lone false true none).1 = [⟨[(1, 0)], by decide⟩] ∧
    (s.find lone false true (some 0)).1 = [⟨[(1, 0)], by decide⟩] ∧
    (s.find lone false true (some 0)).1 ≠ (s.find lone false true none).1.take (0 : Int).toNat := by
  intro s
  have sound := Matcher.sound_ofPattern s lone false true
  have pending : (Matcher.ofPattern s lone false true).pending s = [⟨[(1, 0)], by decide⟩] := by
    rw [Matcher.pending_ofPattern_eq]
    rfl
  have all : (s.find lone false true none).1 = [⟨[(1, 0)], by decide⟩] :=
    (sound.rest s).trans pending
  have found : (s.find lone false true (some 0)).1 = [⟨[(1, 0)], by decide⟩] := by
    refine (sound.takeUntil s 0 0).trans ?_
    rw [pending]
    rfl
  refine ⟨all, found, ?_⟩
  rw [all, found]
  exact List.cons_ne_nil _ _

end Pattern

end GrowthGrammar
