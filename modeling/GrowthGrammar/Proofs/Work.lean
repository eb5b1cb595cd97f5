/-!
Work that may stop at a fault: how the parts of such work run one after the other on a state. What
was done before a fault stays done.
-/
namespace GrowthGrammar.Work

variable {ε σ α β : Type}

theorem run_bind (w : ExceptT ε (StateM σ) α) (f : α → ExceptT ε (StateM σ) β) (s : σ) :
    (w >>= f).run s =
      match w.run s with
      | (.ok a, t) => (f a).run t
      | (.error fault, t) => (.error fault, t) := by
  show (ExceptT.bind w f : σ → Except ε β × σ) s = _
  simp only [ExceptT.bind, ExceptT.mk, bind, StateT.bind, ExceptT.run]
  cases (w s : Except ε α × σ) with
  | mk result t => cases result <;> rfl

/-- What ends well has ended well in both of its parts. -/
theorem run_bind_ok {w : ExceptT ε (StateM σ) α} {f : α → ExceptT ε (StateM σ) β} {s t : σ} {b : β}
    (done : (w >>= f).run s = (.ok b, t)) :
    ∃ a mid, w.run s = (.ok a, mid) ∧ (f a).run mid = (.ok b, t) := by
  rw [run_bind] at done
  split at done
  · rename_i a mid ran
    exact ⟨a, mid, ran, done⟩
  · cases congrArg Prod.fst done

theorem run_modifyGet (f : σ → α × σ) (s : σ) :
    (modifyGet f : ExceptT ε (StateM σ) α).run s = (.ok (f s).1, (f s).2) := rfl

theorem run_get (s : σ) : (get : ExceptT ε (StateM σ) σ).run s = (.ok s, s) := rfl

theorem ok_bind (a : α) (f : α → Except ε β) : (Except.ok a >>= f) = f a := rfl

theorem bind_ok_iff {w : Except ε α} {f : α → Except ε β} {b : β} :
    (w >>= f) = .ok b ↔ ∃ a, w = .ok a ∧ f a = .ok b := by
  constructor
  · intro done
    cases w with
    | ok a => exact ⟨a, rfl, done⟩
    | error fault => cases done
  · rintro ⟨a, rfl, done⟩
    exact done

/-- What stops has stopped in one of its parts. -/
theorem of_bind_error {w : Except ε α} {f : α → Except ε β} {fault : ε}
    (failed : (w >>= f) = .error fault) :
    w = .error fault ∨ ∃ a, w = .ok a ∧ f a = .error fault := by
  cases w with
  | ok a => exact .inr ⟨a, rfl, failed⟩
  | error other =>
    cases failed
    exact .inl rfl

theorem mapError_ok_iff {δ : Type} {w : Except δ α} {f : δ → ε} {a : α} :
    w.mapError f = .ok a ↔ w = .ok a := by
  cases w with
  | ok b => exact ⟨fun same => by cases same; rfl, fun same => by cases same; rfl⟩
  | error fault => exact iff_of_false nofun nofun

/-- Answers of which the same is made are the same fault, or results of which the same is made. -/
theorem same_of_map {γ : Type} {f : α → γ} {w v : Except ε α} (same : w.map f = v.map f) :
    (∃ fault, w = .error fault ∧ v = .error fault) ∨ ∃ a b, w = .ok a ∧ v = .ok b ∧ f a = f b := by
  cases w with
  | error fault =>
    cases v with
    | error other => exact .inl ⟨fault, rfl, by cases same; rfl⟩
    | ok b => cases same
  | ok a =>
    cases v with
    | error fault => cases same
    | ok b => exact .inr ⟨a, b, rfl, rfl, Except.ok.inj same⟩

theorem some_of_map {γ : Type} {f : α → γ} {a? b? : Option α} (same : a?.map f = b?.map f) :
    (a? = none ∧ b? = none) ∨ ∃ a b, a? = some a ∧ b? = some b ∧ f a = f b := by
  cases a? with
  | none =>
    cases b? with
    | none => exact .inl ⟨rfl, rfl⟩
    | some b => cases same
  | some a =>
    cases b? with
    | none => cases same
    | some b => exact .inr ⟨a, b, rfl, rfl, Option.some.inj same⟩

theorem isOk_iff {w : Except ε α} : w.isOk = true ↔ ∃ a, w = .ok a := by
  cases w with
  | ok a => exact iff_of_true rfl ⟨a, rfl⟩
  | error fault => exact iff_of_false Bool.false_ne_true nofun

/-- Where every answer is known, so is that of a whole list: it stops at the first fault. -/
theorem mapM_of_reason? {κ : Type} {f : α → Except ε β} {reason? : α → Option κ} {fault : κ → ε}
    {g : α → β} {items : List α}
    (each : ∀ a ∈ items, f a = (reason? a).elim (.ok (g a)) fun reason => .error (fault reason)) :
    items.mapM f =
      (items.findSome? reason?).elim (.ok (items.map g)) fun reason => .error (fault reason) := by
  induction items with
  | nil => rfl
  | cons a rest ih =>
    have later := ih fun other member => each other (List.mem_cons_of_mem _ member)
    rw [List.mapM_cons, each a List.mem_cons_self, later, List.findSome?_cons]
    cases reason? a with
    | some reason => rfl
    | none => cases rest.findSome? reason? <;> rfl

theorem mapM_ok {f : α → Except ε β} {g : α → β} {items : List α}
    (each : ∀ a ∈ items, f a = .ok (g a)) : items.mapM f = .ok (items.map g) := by
  have answer := @mapM_of_reason? ε α β Empty f (fun _ => none) Empty.elim g items each
  rwa [List.findSome?_eq_none_iff.mpr fun _ _ => rfl] at answer

/-- What undoes a change of single items undoes it on a whole list. -/
theorem mapM_map_ok {f : α → β} {g : β → Except ε α} {items : List α}
    (each : ∀ a ∈ items, g (f a) = .ok a) : (items.map f).mapM g = .ok items := by
  rw [List.mapM_map]
  exact (mapM_ok each).trans (by rw [List.map_id'])

/-- The results of a whole list are those of its members. -/
theorem members_of_mapM_ok {f : α → Except ε β} {items : List α} {results : List β}
    (done : items.mapM f = .ok results) :
    (∀ b ∈ results, ∃ a ∈ items, f a = .ok b) ∧ ∀ a ∈ items, ∃ b ∈ results, f a = .ok b := by
  induction items generalizing results with
  | nil =>
    cases done
    exact ⟨fun b member => absurd member List.not_mem_nil,
      fun a member => absurd member List.not_mem_nil⟩
  | cons a rest ih =>
    rw [List.mapM_cons] at done
    obtain ⟨first, given, done⟩ := bind_ok_iff.mp done
    obtain ⟨others, later, done⟩ := bind_ok_iff.mp done
    cases done
    obtain ⟨sources, results⟩ := ih later
    constructor
    · intro b member
      rcases List.mem_cons.mp member with rfl | member
      · exact ⟨a, List.mem_cons_self, given⟩
      · obtain ⟨source, there, known⟩ := sources b member
        exact ⟨source, List.mem_cons_of_mem _ there, known⟩
    · intro item member
      rcases List.mem_cons.mp member with rfl | member
      · exact ⟨first, List.mem_cons_self, given⟩
      · obtain ⟨result, there, known⟩ := results item member
        exact ⟨result, List.mem_cons_of_mem _ there, known⟩

theorem eq_nil_iff_of_mapM_ok {f : α → Except ε β} {items : List α} {results : List β}
    (done : items.mapM f = .ok results) : results = [] ↔ items = [] := by
  cases items with
  | nil =>
    cases done
    simp
  | cons a rest =>
    rw [List.mapM_cons] at done
    obtain ⟨first, _, done⟩ := bind_ok_iff.mp done
    obtain ⟨others, _, done⟩ := bind_ok_iff.mp done
    cases done
    simp

theorem of_forM_ok {f : α → Except ε Unit} {items : List α} (done : items.forM f = .ok ()) :
    ∀ a ∈ items, f a = .ok () := by
  induction items with
  | nil => exact fun a member => absurd member List.not_mem_nil
  | cons a rest ih =>
    obtain ⟨_, first, later⟩ := bind_ok_iff.mp (show (f a >>= fun _ => rest.forM f) = _ from done)
    intro b member
    rcases List.mem_cons.mp member with rfl | member
    · exact first
    · exact ih later b member

theorem of_forM_error {f : α → Except ε Unit} {items : List α} {fault : ε}
    (failed : items.forM f = .error fault) : ∃ a ∈ items, f a = .error fault := by
  induction items with
  | nil => cases failed
  | cons a rest ih =>
    rcases of_bind_error (show (f a >>= fun _ => rest.forM f) = _ from failed) with
      first | ⟨_, _, later⟩
    · exact ⟨a, List.mem_cons_self, first⟩
    · obtain ⟨b, member, failed⟩ := ih later
      exact ⟨b, List.mem_cons_of_mem _ member, failed⟩

theorem forM_ok {f : α → Except ε PUnit} {items : List α} (each : ∀ a ∈ items, f a = .ok ⟨⟩) :
    items.forM f = .ok ⟨⟩ := by
  induction items with
  | nil => rfl
  | cons a rest ih =>
    have later := ih fun other member => each other (List.mem_cons_of_mem _ member)
    show (f a >>= fun _ => rest.forM f) = _
    rw [each a List.mem_cons_self]
    exact later

/-- Steps that leave one part of what they change as it was gather what they give. -/
theorem foldlM_gather {step : List β × σ → α → Except ε (List β × σ)} {t : σ} {gives : α → List β}
    {items : List α} (each : ∀ a ∈ items, ∀ found, step (found, t) a = .ok (found ++ gives a, t))
    (found : List β) : items.foldlM step (found, t) = .ok (found ++ items.flatMap gives, t) := by
  induction items generalizing found with
  | nil => rw [List.flatMap_nil, List.append_nil]; rfl
  | cons a rest ih =>
    rw [List.foldlM_cons, each a List.mem_cons_self, List.flatMap_cons, ← List.append_assoc]
    exact ih (fun later member => each later (List.mem_cons_of_mem _ member)) _

end GrowthGrammar.Work
