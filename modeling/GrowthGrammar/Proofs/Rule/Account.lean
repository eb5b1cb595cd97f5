import GrowthGrammar.Proofs.Scene.Balance
import GrowthGrammar.Proofs.Search.Placement
import GrowthGrammar.Rule.Pass

/-!
Accounts: the outcomes of procedures name the nodes that were taken away and those that were given.
Most work on a site leaves the nodes as they are; the account of the whole is put together from
those of its parts.
-/
namespace GrowthGrammar

namespace SiteWork

variable {α β : Type}

/-- Work that leaves the nodes of the scene, whether it ends well or not. -/
def Quiet (w : SiteWork α) : Prop := ∀ site : Site, site.scene.SameNodes (w.run site).2.scene

/-- Work that takes nodes away and gives some, and whose answer tells which. After a fault nobody is
told, but the balance is one all the same. -/
def Accounts (w : SiteWork α) (start : Site) (Told : α → List Int → List Int → Prop) : Prop :=
  ∃ removed added, start.scene.Balance (w.run start).2.scene removed added ∧
    ∀ a, (w.run start).1 = .ok a → Told a removed added

variable {w : SiteWork α} {f : α → SiteWork β} {start : Site}
  {Told : α → List Int → List Int → Prop} {Told' : β → List Int → List Int → Prop}

/-! ### Quiet work -/

theorem quiet_pure (a : α) : Quiet (pure a) := fun site => .refl site.scene

theorem Quiet.bind (first : Quiet w) (second : ∀ a, Quiet (f a)) : Quiet (w >>= f) := by
  intro site
  have before := first site
  rw [Work.run_bind]
  split
  · rename_i a mid ran
    rw [ran] at before
    exact before.trans (second a mid)
  · rename_i fault mid ran
    rw [ran] at before
    exact before

theorem quiet_forM {γ : Type} {g : γ → SiteWork PUnit} (each : ∀ c, Quiet (g c)) (items : List γ) :
    Quiet (items.forM g) := by
  induction items with
  | nil => exact quiet_pure _
  | cons c rest ih => exact (each c).bind fun _ => ih

theorem quiet_note (n : Note) : Quiet (note n) := fun site => .refl site.scene

theorem quiet_ask (answer : Except GraphFault α) : Quiet (ask answer) := by
  intro site
  cases answer <;> exact .refl site.scene

theorem quiet_change {g : Scene → Scene} (leaves : ∀ s, Scene.SameNodes s (g s)) :
    Quiet (change g) := fun site => leaves site.scene

theorem quiet_onScene {work : SceneWork α} (leaves : ∀ s, Scene.SameNodes s (work.run s).2) :
    Quiet (onScene work) := by
  refine Quiet.bind (fun site => ?_) quiet_ask
  exact leaves site.scene

theorem quiet_make (t : Template) (base : Option Node) : Quiet (make t base) := by
  refine Quiet.bind (fun site => .refl site.scene) fun result => ?_
  cases result
  · exact fun site => .refl site.scene
  · exact quiet_pure _

/-! ### Accounts of parts and of the whole -/

theorem Quiet.accounts (quiet : Quiet w) (inStep : start.scene.InStep)
    (told : ∀ a, (w.run start).1 = .ok a → Told a [] []) : w.Accounts start Told :=
  ⟨[], [], (quiet start).balance inStep, told⟩

theorem accounts_pure {a : α} (inStep : start.scene.InStep) (told : Told a [] []) :
    Accounts (pure a) start Told :=
  (quiet_pure a).accounts inStep fun b same => by
    cases same
    exact told

theorem Accounts.bind (first : w.Accounts start Told)
    (second : ∀ a removed added t, Told a removed added → t.scene.InStep →
      (f a).Accounts t fun c removed' added' => Told' c (removed ++ removed') (added ++ added')) :
    (w >>= f).Accounts start Told' := by
  obtain ⟨removed, added, balance, told⟩ := first
  unfold Accounts
  rw [Work.run_bind]
  split
  · rename_i a mid ran
    rw [ran] at balance told
    obtain ⟨removed', added', balance', told'⟩ :=
      second a removed added mid (told a rfl) balance.inStep
    exact ⟨_, _, balance.trans balance', told'⟩
  · rename_i fault mid ran
    rw [ran] at balance
    exact ⟨removed, added, balance, fun _ same => by cases same⟩

theorem Accounts.imp {Told' : α → List Int → List Int → Prop} (accounts : w.Accounts start Told)
    (weaker : ∀ a removed added, Told a removed added → Told' a removed added) :
    w.Accounts start Told' := by
  obtain ⟨removed, added, balance, told⟩ := accounts
  exact ⟨removed, added, balance, fun a same => weaker a removed added (told a same)⟩

theorem Quiet.bind_accounts (quiet : Quiet w) (inStep : start.scene.InStep)
    (second : ∀ a t, start.scene.SameNodes t.scene → t.scene.InStep → (f a).Accounts t Told') :
    (w >>= f).Accounts start Told' := by
  have same := quiet start
  unfold Accounts
  rw [Work.run_bind]
  split
  · rename_i a mid ran
    rw [ran] at same
    obtain ⟨removed, added, balance, told⟩ := second a mid same (same.balance inStep).inStep
    exact ⟨removed, added, (same.balance inStep).trans balance, told⟩
  · rename_i fault mid ran
    rw [ran] at same
    exact ⟨[], [], same.balance inStep, fun _ same => by cases same⟩

theorem scene_bind_run (f : Scene → SiteWork β) (site : Site) :
    (scene >>= f).run site = (f site.scene).run site := rfl

theorem accounts_scene_bind {f : Scene → SiteWork β} (rest : (f start.scene).Accounts start Told') :
    (scene >>= f).Accounts start Told' := rest

theorem accounts_change {g : Scene → Scene} {removed added : List Int}
    {Told : Unit → List Int → List Int → Prop}
    (balance : start.scene.Balance (g start.scene) removed added) (told : Told () removed added) :
    (change g).Accounts start Told := ⟨removed, added, balance, fun _ _ => told⟩

theorem accounts_insert {node : Node} {Told : Int → List Int → List Int → Prop}
    (inStep : start.scene.InStep) (told : ∀ id, Told id [] [id]) :
    (insert node).Accounts start Told :=
  ⟨[], [_], Scene.insert_balance inStep node, fun id same => by
    cases same
    exact told _⟩

end SiteWork

/-! ### Single procedures -/

namespace Outcome

def removedIds : Outcome → List Int
  | .removed ids => ids
  | _ => []

def addedIds : Outcome → List Int
  | .added ids => ids
  | _ => []

end Outcome

namespace Bindings

variable {b : Bindings}

theorem values_erase (b : Bindings) (n : Int) : (b.erase n).values.Sublist b.values :=
  List.filter_sublist.map _

theorem live?_eq_some_iff {s : Scene} {n id : Int} :
    b.live? s n = some id ↔ b.get? n = some id ∧ s.contains id = true := by
  rw [live?, Option.filter_eq_some_iff]

end Bindings

namespace Procedure

theorem targetsLive_eq_false_iff {p : Procedure} {b : Bindings} {s : Scene} :
    p.targetsLive b s = false ↔
      ∃ n ∈ p.references, ∀ id, b.get? n = some id → s.contains id = false := by
  rw [targetsLive, List.all_eq_false]
  refine exists_congr fun n => and_congr_right fun _ => ?_
  rw [Bool.not_eq_true, ← Bool.not_eq_true, Option.isSome_iff_exists]
  simp only [Bindings.live?_eq_some_iff, not_exists, not_and, Bool.not_eq_true]

/-- The outcome names the nodes taken away and given, and no node is bound anew. -/
def Tells (b : Bindings) (answer : Outcome × Bindings) (removed added : List Int) : Prop :=
  answer.1.removedIds = removed ∧ answer.1.addedIds = added ∧
    answer.2.values.Sublist b.values

variable {b : Bindings} {start : Site} {s : Scene} {references ids : List Int}

open SiteWork

theorem failure_accounts (n : Note) (inStep : start.scene.InStep) :
    (do note n; return (.failed, b) : SiteWork (Outcome × Bindings)).Accounts start (Tells b) :=
  (quiet_note n).bind_accounts inStep fun _ _ _ inStep =>
    accounts_pure inStep ⟨rfl, rfl, .refl _⟩

theorem delete_accounts (target : Int) (inStep : start.scene.InStep) :
    (delete? target b).Accounts start (Tells b) := by
  apply accounts_scene_bind
  split
  · exact failure_accounts _ inStep
  · rename_i id found
    have there := (Bindings.live?_eq_some_iff.mp found).2
    have taken : (change fun s => (s.remove id).2).Accounts start
        fun _ removed added => removed = [id] ∧ added = [] :=
      accounts_change (Scene.remove_balance inStep there) ⟨rfl, rfl⟩
    refine taken.bind ?_
    rintro _ _ _ t ⟨rfl, rfl⟩ inStep
    exact accounts_pure inStep ⟨rfl, rfl, b.values_erase target⟩

theorem replace_accounts (target : Int) (replacement : Template) (inStep : start.scene.InStep) :
    (replace? target replacement b).Accounts start (Tells b) := by
  apply accounts_scene_bind
  split
  · exact failure_accounts _ inStep
  · rename_i id found
    refine (quiet_make _ _).bind_accounts inStep fun node _ _ inStep => ?_
    refine (quiet_onScene (Scene.replace_sameNodes · id node)).bind_accounts inStep
      fun _ _ _ inStep => ?_
    refine (quiet_change (Scene.touchNode_sameNodes · id)).bind_accounts inStep
      fun _ _ _ inStep => ?_
    exact accounts_pure inStep ⟨rfl, rfl, .refl _⟩

theorem add_accounts (neighbors : List Int) (node : Template) (inStep : start.scene.InStep) :
    (add? neighbors node b).Accounts start (Tells b) := by
  apply accounts_scene_bind
  split
  · exact failure_accounts _ inStep
  · rename_i ids resolved
    refine (quiet_make _ _).bind_accounts inStep fun node t _ inStep => ?_
    have given : (insert node).Accounts t fun id removed added => removed = [] ∧ added = [id] :=
      accounts_insert inStep fun _ => ⟨rfl, rfl⟩
    refine given.bind ?_
    rintro id _ _ _ ⟨rfl, rfl⟩ inStep
    refine (quiet_forM (fun neighbor =>
      quiet_onScene (Scene.addEdge_sameNodes · id neighbor)) ids).bind_accounts inStep
      fun _ _ _ inStep => ?_
    have told : Tells b (.added [id], b) ([] ++ []) ([id] ++ []) := ⟨rfl, rfl, .refl _⟩
    split
    · rename_i parent first
      exact (quiet_change (Scene.attach_sameNodes · id parent)).bind_accounts inStep
        fun _ _ _ inStep => accounts_pure inStep told
    · exact accounts_pure inStep told

/-! ### Merges -/

theorem nodup_eraseDups (ids : List Int) : ids.eraseDups.Nodup := by
  cases ids with
  | nil => exact List.nodup_nil
  | cons id rest =>
    rw [List.eraseDups_cons, List.nodup_cons]
    refine ⟨fun member => ?_, nodup_eraseDups _⟩
    simpa using (List.mem_filter.mp (List.mem_eraseDups.mp member)).2
termination_by ids.length
decreasing_by exact Nat.lt_succ_of_le (List.length_filter_le ..)

theorem nodup_references_merge (targets : List Int) (survivor : Int) :
    (merge targets survivor).references.Nodup := by
  show (if survivor ∈ targets.eraseDups then targets.eraseDups
    else targets.eraseDups ++ [survivor]).Nodup
  split
  · exact nodup_eraseDups targets
  · rename_i new
    refine List.nodup_append.mpr ⟨nodup_eraseDups targets, List.nodup_singleton _, ?_⟩
    rintro a member _ last rfl
    rw [List.mem_singleton.mp last] at member
    exact new member

/-- What is resolved is live, one id for every pattern id. -/
theorem resolve_ok (resolved : resolve s b references = .ok ids) :
    references.map (b.live? s) = ids.map some := by
  induction references generalizing ids with
  | nil =>
    cases resolved
    rfl
  | cons n rest ih =>
    rw [resolve, List.mapM_cons] at resolved
    cases found : b.live? s n with
    | none =>
      rw [found] at resolved
      cases resolved
    | some id =>
      rw [found] at resolved
      cases later : resolve s b rest with
      | error missing =>
        rw [resolve] at later
        rw [later] at resolved
        cases resolved
      | ok others =>
        have tail := ih later
        rw [resolve] at later
        rw [later] at resolved
        cases resolved
        rw [List.map_cons, List.map_cons, found, tail]

theorem contains_of_resolve (resolved : references.map (b.live? s) = ids.map some) {id : Int}
    (member : id ∈ ids) : s.contains id = true := by
  have there : some id ∈ references.map (b.live? s) := by
    rw [resolved]
    exact List.mem_map_of_mem member
  obtain ⟨n, -, found⟩ := List.mem_map.mp there
  exact (Bindings.live?_eq_some_iff.mp found).2

theorem nodup_of_resolve (resolved : references.map (b.live? s) = ids.map some)
    (injective : b.values.Nodup) (distinct : references.Nodup) : ids.Nodup := by
  have nodup : (references.map (b.live? s)).Nodup := by
    refine distinct.map_on fun m named n _ same => ?_
    have found : b.live? s m ∈ ids.map some := resolved ▸ List.mem_map_of_mem named
    obtain ⟨id, -, first⟩ := List.mem_map.mp found
    rw [← first] at same
    exact Bindings.key_eq_of_get? injective (Bindings.live?_eq_some_iff.mp first.symm).1
      (Bindings.live?_eq_some_iff.mp same.symm).1
  rw [resolved] at nodup
  exact nodup.of_map some

theorem absorb_balance (survivor : Int) {ids : List Int} (inStep : s.InStep) (distinct : ids.Nodup)
    (there : ∀ id ∈ ids, s.contains id = true) :
    s.Balance (ids.foldl (absorb survivor) s) ids [] := by
  induction ids generalizing s with
  | nil => exact (Scene.SameNodes.refl s).balance inStep
  | cons id rest ih =>
    obtain ⟨new, distinct⟩ := List.nodup_cons.mp distinct
    have quiet := Scene.release_sameNodes s id (some survivor)
    have released := quiet.balance inStep
    have here := (quiet.contains id).trans (there id List.mem_cons_self)
    have first : s.Balance (absorb survivor s id) [id] [] :=
      released.trans (Scene.remove_balance released.inStep here)
    refine first.trans (ih first.inStep distinct fun other member => ?_)
    have different : id ≠ other := fun same => new (same ▸ member)
    have before := there other (List.mem_cons_of_mem _ member)
    show (Catalog.erase s.nodes id).contains other = true
    rw [Catalog.contains_erase, decide_eq_false different]
    exact before

theorem values_foldl_erase (b : Bindings) (absorbed : List (Int × Int)) :
    (absorbed.foldl (fun b e => b.erase e.1) b).values.Sublist b.values := by
  induction absorbed generalizing b with
  | nil => exact .refl _
  | cons e rest ih => exact (ih (b.erase e.1)).trans (b.values_erase e.1)

theorem merge_accounts (survivor : Int) (distinct : references.Nodup) (injective : b.values.Nodup)
    (inStep : start.scene.InStep) :
    (merge? references survivor b).Accounts start (Tells b) := by
  apply accounts_scene_bind
  split
  · exact failure_accounts _ inStep
  · exact failure_accounts _ inStep
  · rename_i ids survivorId resolved found
    have live := resolve_ok resolved
    refine (quiet_ask _).bind_accounts inStep fun neighbors t same inStep => ?_
    let absorbed := (references.zip ids).filter fun e => e.2 ≠ survivorId
    have sublist : (absorbed.map (·.2)).Sublist ids := by
      have lengths : ids.length ≤ references.length := by
        rw [← List.length_map (some : Int → Option Int), ← live, List.length_map]
      rw [← List.map_snd_zip lengths]
      exact List.filter_sublist.map _
    have balance : t.scene.Balance ((absorbed.map (·.2)).foldl (absorb survivorId) t.scene)
        (absorbed.map (·.2)) [] := by
      have different := (nodup_of_resolve live injective distinct).sublist sublist
      refine absorb_balance survivorId inStep different fun id member => ?_
      rw [same.contains]
      exact contains_of_resolve live (sublist.subset member)
    have taken : (change fun s => (absorbed.map (·.2)).foldl (absorb survivorId) s).Accounts t
        fun _ removed added => removed = absorbed.map (·.2) ∧ added = [] :=
      accounts_change balance ⟨rfl, rfl⟩
    refine taken.bind ?_
    rintro _ _ _ _ ⟨rfl, rfl⟩ inStep
    refine (quiet_forM (fun neighbor =>
      quiet_onScene (Scene.addEdge_sameNodes · survivorId neighbor)) neighbors).bind_accounts inStep
      fun _ _ _ inStep => ?_
    have told : Tells b (.removed (absorbed.map (·.2)), absorbed.foldl (fun b e => b.erase e.1) b)
        (absorbed.map (·.2) ++ []) ([] ++ []) :=
      ⟨(List.append_nil _).symm, rfl, values_foldl_erase b absorbed⟩
    have touched {t : Site} (inStep : t.scene.InStep) :
        (do change fun s => s.mapGraph (·.touchNode survivorId)
            return (.removed (absorbed.map (·.2)), absorbed.foldl (fun b e => b.erase e.1) b) :
          SiteWork (Outcome × Bindings)).Accounts t fun answer removed added =>
            Tells b answer (absorbed.map (·.2) ++ removed) ([] ++ added) :=
      (quiet_change (Scene.touchNode_sameNodes · survivorId)).bind_accounts inStep
        fun _ _ _ inStep => accounts_pure inStep told
    split
    · rename_i parent first
      exact (quiet_change (Scene.attach_sameNodes · survivorId parent)).bind_accounts inStep
        fun _ _ _ inStep => touched inStep
    · exact touched inStep

/-- Every procedure accounts for the nodes it takes away and gives. -/
theorem apply_accounts (p : Procedure) (injective : b.values.Nodup)
    (inStep : start.scene.InStep) : (p.apply b).Accounts start (Tells b) := by
  cases p with
  | delete target => exact delete_accounts target inStep
  | replace target replacement => exact replace_accounts target replacement inStep
  | add neighbors node => exact add_accounts neighbors node inStep
  | merge targets survivor =>
    exact merge_accounts survivor (nodup_references_merge targets survivor) injective inStep

end Procedure

end GrowthGrammar
