import GrowthGrammar.Proofs.Rule.Fate

/-!
Shares: what each match adds to the result of a pass. A pass is the same as one that lists the
outcomes of every match, and every match that is not skipped has the fate that its procedures
foretell, so that all of them add the same.
-/
namespace GrowthGrammar

namespace PassResult

theorem tally_record (r : PassResult) (o : Outcome) : (r.record o).tally = r.tally + o.tally := by
  cases o <;> simp [tally, record, Outcome.tally, Tally.add_eq, Outcome.removedIds,
    Outcome.addedIds, Outcome.modifiedIds, Outcome.isFailure]

theorem tally_add (r other : PassResult) : (r.add other).tally = r.tally + other.tally := by
  simp [tally, add, Tally.add_eq]

def recordAll (r : PassResult) (outcomes : List Outcome) : PassResult := outcomes.foldl record r

theorem recordAll_append (r : PassResult) (first second : List Outcome) :
    r.recordAll (first ++ second) = (r.recordAll first).recordAll second :=
  List.foldl_append

theorem tally_recordAll (r : PassResult) (outcomes : List Outcome) :
    (r.recordAll outcomes).tally = r.tally + (outcomes.map Outcome.tally).sum := by
  induction outcomes generalizing r with
  | nil => exact (add_zero r.tally).symm
  | cons o rest ih =>
    rw [recordAll, List.foldl_cons, ← recordAll, ih, tally_record, List.map_cons, List.sum_cons,
      add_assoc]

theorem add_empty (r : PassResult) : r.add {} = r := by
  simp only [add, List.append_nil, Nat.add_zero]

theorem empty_add (r : PassResult) : PassResult.add {} r = r := by
  simp only [add, List.nil_append, Nat.zero_add]

theorem add_assoc (r s t : PassResult) : (r.add s).add t = r.add (s.add t) := by
  simp only [add, List.append_assoc, Nat.add_assoc]

end PassResult

/-! ### Passes that tell what every match adds -/

namespace Rule

/-- Does the procedures with a match and lists the outcomes. -/
def outcomes (b : Bindings) : List Procedure → SiteWork (List Outcome)
  | [] => pure []
  | p :: rest => do
    let (outcome, b) ← p.apply b
    return outcome :: (← outcomes b rest)

/-- Does the procedures with every match that is not stale, and lists the outcomes of each. -/
def shares (r : Rule) : List Bindings → SiteWork (List (Option (List Outcome)))
  | [] => pure []
  | b :: rest => do
    if r.isStale (← SiteWork.scene) b then
      SiteWork.note (.stale r.id b)
      return none :: (← r.shares rest)
    else
      let share ← outcomes b r.procedures
      return some share :: (← r.shares rest)

/-- The outcomes of all matches that were not skipped. -/
def allOutcomes (shares : List (Option (List Outcome))) : List Outcome :=
  (shares.map fun share => share.getD []).flatten

theorem applyProcedures_eq (b : Bindings) (result : PassResult) (procedures : List Procedure) :
    applyProcedures b result procedures = result.recordAll <$> outcomes b procedures := by
  induction procedures generalizing b result with
  | nil => rfl
  | cons p rest ih =>
    rw [applyProcedures, outcomes, map_bind]
    refine bind_congr fun answer => ?_
    simp only [ih, map_eq_pure_bind, bind_assoc, pure_bind]
    rfl

/-- The result of a pass is put together from what it did with each match. -/
theorem applyMatches_eq (r : Rule) (result : PassResult) (found : List Bindings) :
    r.applyMatches result found =
      (fun shares => result.recordAll (allOutcomes shares)) <$> r.shares found := by
  induction found generalizing result with
  | nil => rfl
  | cons b rest ih =>
    rw [applyMatches, shares, map_bind]
    refine bind_congr fun s => ?_
    split
    · simp only [ih, map_eq_pure_bind, bind_assoc, pure_bind]
      rfl
    · simp only [applyProcedures_eq, ih, map_eq_pure_bind, bind_assoc, pure_bind]
      refine bind_congr fun share => bind_congr fun others => ?_
      rw [← PassResult.recordAll_append]
      rfl

end Rule

namespace Rule

open Procedure

variable {b : Bindings} {site after : Site} {gone : List Int} {p : Procedure}
  {procedures : List Procedure} {share : List Outcome}

/-- Where all procedures end, the first has ended and the others go on from there. -/
theorem outcomes_cons (h : site.scene.Sound)
    (done : (outcomes b (p :: procedures)).run site = (.ok share, after)) :
    ∃ o b' mid later, Ends site.scene b p (.ok (o, b')) mid.scene ∧
      (outcomes b' procedures).run mid = (.ok later, after) ∧ share = o :: later := by
  rw [outcomes] at done
  obtain ⟨⟨o, b'⟩, mid, first, rest⟩ := Work.run_bind_ok done
  obtain ⟨later, last, ran, listed⟩ := Work.run_bind_ok rest
  have ends := apply_ends p b h
  rw [first] at ends
  cases listed
  exact ⟨o, b', mid, later, ends, ran, rfl⟩

theorem outcomes_tallies (h : Standing site.scene b gone procedures)
    (done : (outcomes b procedures).run site = (.ok share, after)) :
    share.map Outcome.tally = fates gone procedures := by
  induction procedures generalizing b gone site share with
  | nil =>
    cases done
    rfl
  | cons p rest ih =>
    obtain ⟨o, b', mid, later, ends, ran, rfl⟩ := outcomes_cons h.sound done
    have live := h.targetsLive
    rw [List.map_cons, fates]
    -- Whether the first fails is told by what is gone, and what it consumes is gone for the rest.
    obtain ⟨missing, rfl, rfl, same⟩ | ⟨fulfilled, does⟩ := ends.of_ok
    · rw [live, Bool.not_eq_false'] at missing
      rw [if_pos missing, ih (same ▸ h.rest) ran]
      rfl
    · rw [live, Bool.not_eq_true'] at fulfilled
      rw [if_neg (ne_true_of_eq_false fulfilled), ih (h.does does) ran, does.tally h.injective]

end Rule

theorem Scene.Kept.outcomes {P : Scene → Prop} (kept : Scene.Kept P) (b : Bindings)
    (procedures : List Procedure) : SiteWork.Keeps P (Rule.outcomes b procedures) := by
  induction procedures generalizing b with
  | nil => exact SiteWork.keeps_pure []
  | cons p rest ih =>
    exact (kept.apply p b).bind fun answer => (ih answer.2).bind fun _ => SiteWork.keeps_pure _

namespace Rule

open Procedure

variable {r : Rule} {keeps : Scene → Bindings → Bool} {start site after : Site} {b : Bindings}
  {found : List Bindings} {result : PassResult} {shares : List (Option (List Outcome))}

/-! ### Matches of a pass -/

/-- Where a pass ends, it has skipped the first match or done all procedures with it, and goes on
with the others from there. -/
theorem shares_cons (done : (r.shares (b :: found)).run site = (.ok shares, after)) :
    ∃ first later mid, shares = first :: later ∧ (r.shares found).run mid = (.ok later, after) ∧
      (r.isStale site.scene b = true ∧ first = none ∧ mid.scene = site.scene ∨
        r.isStale site.scene b = false ∧ ∃ share, first = some share ∧
          (outcomes b r.procedures).run site = (.ok share, mid)) := by
  rw [Rule.shares, SiteWork.scene_bind_run] at done
  cases stale : r.isStale site.scene b with
  | true =>
    rw [if_pos stale] at done
    obtain ⟨_, mid, noted, rest⟩ := Work.run_bind_ok done
    obtain ⟨later, last, ran, listed⟩ := Work.run_bind_ok rest
    cases listed
    cases noted
    exact ⟨none, later, _, rfl, ran, .inl ⟨rfl, rfl, rfl⟩⟩
  | false =>
    rw [if_neg (ne_true_of_eq_false stale)] at done
    obtain ⟨share, mid, first, rest⟩ := Work.run_bind_ok done
    obtain ⟨later, last, ran, listed⟩ := Work.run_bind_ok rest
    cases listed
    exact ⟨some share, later, mid, rfl, ran, .inr ⟨rfl, share, rfl, first⟩⟩

theorem length_shares (done : (r.shares found).run site = (.ok shares, after)) :
    shares.length = found.length := by
  induction found generalizing site shares with
  | nil =>
    cases done
    rfl
  | cons b rest ih =>
    obtain ⟨first, later, mid, rfl, ran, -⟩ := shares_cons done
    rw [List.length_cons, List.length_cons, ih ran]

theorem standing_of_fresh (sound : site.scene.Sound) (injective : b.values.Nodup)
    (fresh : r.isStale site.scene b = false) : Standing site.scene b [] r.procedures where
  sound := sound
  injective := injective
  unbound := fun n member => absurd member List.not_mem_nil
  live := fun p procedure n named _ => by
    rw [isStale, Bool.not_eq_false', List.all_eq_true] at fresh
    exact List.all_eq_true.mp (fresh p procedure) n named

theorem shares_tallies (sound : site.scene.Sound) (injective : ∀ b ∈ found, b.values.Nodup)
    (done : (r.shares found).run site = (.ok shares, after)) {share : List Outcome}
    (member : some share ∈ shares) : share.map Outcome.tally = fates [] r.procedures := by
  induction found generalizing site shares with
  | nil =>
    cases done
    exact absurd member List.not_mem_nil
  | cons b rest ih =>
    have others : ∀ c ∈ rest, c.values.Nodup := fun c member =>
      injective c (List.mem_cons_of_mem _ member)
    obtain ⟨first, later, mid, rfl, ran, skipped | applied⟩ := shares_cons done
    · obtain ⟨-, rfl, same⟩ := skipped
      rw [← same] at sound
      exact ih sound others ran ((List.mem_cons.mp member).resolve_left (Option.some_ne_none share))
    · obtain ⟨fresh, own, rfl, first⟩ := applied
      rcases List.mem_cons.mp member with here | there
      · obtain rfl := Option.some.inj here
        exact outcomes_tallies
          (standing_of_fresh sound (injective b List.mem_cons_self) fresh) first
      · have kept := Scene.sound_kept.outcomes b r.procedures site sound
        rw [first] at kept
        exact ih kept others ran there

theorem sum_allOutcomes {fates : List Tally}
    (alike : ∀ share, some share ∈ shares → share.map Outcome.tally = fates) :
    ((allOutcomes shares).map Outcome.tally).sum = shares.countP (·.isSome) • fates.sum := by
  induction shares with
  | nil => exact (zero_nsmul _).symm
  | cons first rest ih =>
    have later := ih fun share member => alike share (List.mem_cons_of_mem _ member)
    have split : allOutcomes (first :: rest) = first.getD [] ++ allOutcomes rest := rfl
    rw [split, List.map_append, List.sum_append, later]
    cases first with
    | none =>
      rw [List.countP_cons_of_neg Bool.false_ne_true]
      exact zero_add _
    | some share =>
      rw [List.countP_cons_of_pos rfl, succ_nsmul', Option.getD_some,
        alike share List.mem_cons_self]

/-- Where a procedure of a match fails, one before that does not fail consumes what it names. -/
theorem consumed_before_failed {procedures : List Procedure} {share : List Outcome}
    (foretold : share.map Outcome.tally = fates [] procedures) {i : Nat} {p : Procedure}
    (here : procedures[i]? = some p) (failed : share[i]? = some .failed) :
    ∃ n ∈ p.references, ∃ j < i, ∃ q o, procedures[j]? = some q ∧ share[j]? = some o ∧
      o ≠ .failed ∧ n ∈ q.consumed := by
  have fate (k : Nat) : (fates [] procedures)[k]? = share[k]?.map Outcome.tally := by
    rw [← foretold, List.getElem?_map]
  have fails : (fates [] procedures)[i]? = some (Outcome.tally .failed) := by
    rw [fate, failed, Option.map_some]
  obtain ⟨n, named, before | ⟨j, less, q, procedure, does, own⟩⟩ :=
    consumed_before_failure here fails Nat.one_ne_zero
  · exact absurd before List.not_mem_nil
  · rw [fate] at does
    obtain ⟨o, outcome, same⟩ := Option.map_eq_some_iff.mp does
    refine ⟨n, named, j, less, q, o, procedure, outcome, ?_, own⟩
    rintro rfl
    exact absurd ((congrArg Tally.failures same).trans q.effect_failures) Nat.one_ne_zero

theorem no_failures_of_isEmpty {k : Nat} {procedures : List Procedure}
    (multiple : result.tally = k • (fates [] procedures).sum) (empty : result.isEmpty = true) :
    result.failures = 0 := by
  rw [Tally.nsmul_eq] at multiple
  have none : result.removed = [] := by
    rw [PassResult.isEmpty, Bool.and_eq_true, Bool.and_eq_true, List.isEmpty_iff] at empty
    exact empty.1.1
  have removed : k * (fates [] procedures).sum.removed = 0 :=
    (congrArg Tally.removed multiple).symm.trans (List.length_eq_zero_iff.mpr none)
  have failures : result.failures = k * (fates [] procedures).sum.failures :=
    congrArg Tally.failures multiple
  rcases Nat.mul_eq_zero.mp removed with rfl | nothing
  · rw [failures, Nat.zero_mul]
  · rw [failures, no_failures_of_no_removed nothing, Nat.mul_zero]

/-- A pass that ends is put together from the shares of its matches. -/
theorem exists_shares (done : ((r.applyWhere keeps).run start).1 = .ok result) :
    ∃ shares after,
      (r.shares (r.kept keeps start.scene)).run (r.begun keeps start) = (.ok shares, after) ∧
      ((r.applyWhere keeps).run start).2.scene = after.scene ∧
      result = ({} : PassResult).recordAll (allOutcomes shares) := by
  obtain ⟨answer, scene⟩ := r.applyWhere_run keeps start
  rw [done, applyMatches_eq, map_eq_pure_bind, Work.run_bind] at answer
  rw [scene, applyMatches_eq, map_eq_pure_bind, Work.run_bind]
  cases ran : (r.shares (r.kept keeps start.scene)).run (r.begun keeps start) with
  | mk listed after =>
    rw [ran] at answer
    cases listed with
    | error fault => cases answer
    | ok shares => exact ⟨shares, after, rfl, rfl, Except.ok.inj answer⟩

theorem injective_of_mem_kept (member : b ∈ r.kept keeps start.scene) : b.values.Nodup :=
  (occurs_of_mem_kept member).injective

/-- In a pass that ends, every match that is not skipped adds the same to the result, in numbers,
namely what the procedures foretell from their pattern ids alone. A procedure fails only where one
before, of the same match, has consumed what it names, so that a pass that touches nothing has no
failures. -/
theorem matches_add_alike (sound : start.scene.Sound)
    (done : ((r.applyWhere keeps).run start).1 = .ok result) :
    ∃ shares after,
      (r.shares (r.kept keeps start.scene)).run (r.begun keeps start) = (.ok shares, after) ∧
      shares.length = (r.kept keeps start.scene).length ∧
      ((r.applyWhere keeps).run start).2.scene = after.scene ∧
      result = ({} : PassResult).recordAll (allOutcomes shares) ∧
      (∀ share, some share ∈ shares → share.map Outcome.tally = fates [] r.procedures ∧
        ∀ (i : Nat) (p : Procedure), r.procedures[i]? = some p → share[i]? = some .failed →
          ∃ n ∈ p.references, ∃ j < i, ∃ q o, r.procedures[j]? = some q ∧ share[j]? = some o ∧
            o ≠ .failed ∧ n ∈ q.consumed) ∧
      result.tally = shares.countP (·.isSome) • (fates [] r.procedures).sum ∧
      (result.isEmpty = true → result.failures = 0) := by
  obtain ⟨shares, after, ran, scene, rfl⟩ := exists_shares done
  have begun : (r.begun keeps start).scene.Sound := sound
  have alike {share : List Outcome} (member : some share ∈ shares) :=
    shares_tallies begun (fun _ => injective_of_mem_kept) ran member
  have multiple := PassResult.tally_recordAll {} (allOutcomes shares)
  rw [sum_allOutcomes fun _ => alike, show ({} : PassResult).tally = 0 from rfl,
    zero_add] at multiple
  refine ⟨shares, after, ran, length_shares ran, scene, rfl, fun share member =>
    ⟨alike member, ?_⟩, multiple, no_failures_of_isEmpty multiple⟩
  exact fun i p here failed => consumed_before_failed (alike member) here failed

/-- Takes a node away and then looks for it in vain. -/
def takeAndMiss : Rule where
  pattern := ⟨[{ id := 0 }], [], by decide, by decide⟩
  procedures := [.delete 0, .replace 0 { name := "" }]

theorem takeAndMiss_adds_alike :
    countedPair.Sound ∧
    (takeAndMiss.apply.run ⟨countedPair, .unseeded, []⟩).1 =
      .ok { removed := [0, 1], failures := 2 } ∧
    fates [] takeAndMiss.procedures = [⟨1, 0, 0, 0⟩, ⟨0, 0, 0, 1⟩] ∧
    ∃ k : Nat, (⟨2, 0, 0, 2⟩ : Tally) = k • (fates [] takeAndMiss.procedures).sum := by
  have sound : countedPair.Sound := Scene.insert_sound (Scene.insert_sound Scene.empty_sound {}) {}
  have found : takeAndMiss.kept (fun _ _ => true) countedPair =
      [⟨[(0, 0)], by decide⟩, ⟨[(0, 1)], by decide⟩] := by
    rw [kept_eq]
    rfl
  have done : (takeAndMiss.apply.run ⟨countedPair, .unseeded, []⟩).1 =
      .ok { removed := [0, 1], failures := 2 } := by
    rw [apply, (takeAndMiss.applyWhere_run _ _).1, show takeAndMiss.kept (fun _ _ => true)
      (⟨countedPair, .unseeded, []⟩ : Site).scene = _ from found]
    rfl
  have start : (⟨countedPair, .unseeded, []⟩ : Site).scene.Sound := sound
  obtain ⟨shares, -, -, -, -, -, -, multiple, -⟩ := matches_add_alike start done
  exact ⟨sound, done, rfl, _, multiple⟩

end Rule

end GrowthGrammar
