import GrowthGrammar.Proofs.Rule.Reloading
import GrowthGrammar.Proofs.Rule.Staleness

/-!
Wordings: what the data of a rule that was loaded have to say. Several forms of data are loaded as
the same part of a rule, and each of them writes the pattern ids as integers, declares the ones that
it names, and gives every condition the bounds that its kind needs. A match of such a rule binds all
that its procedures name.
-/
namespace GrowthGrammar

theorem Work.forall₂_of_mapM_ok {ε α β : Type} {R : α → β → Prop} {f : α → Except ε β}
    {items : List α} {results : List β} (sound : ∀ a b, f a = .ok b → R a b)
    (done : items.mapM f = .ok results) : List.Forall₂ R items results := by
  induction items generalizing results with
  | nil =>
    cases done
    exact .nil
  | cons a rest ih =>
    rw [List.mapM_cons] at done
    obtain ⟨first, given, done⟩ := bind_ok_iff.mp done
    obtain ⟨others, later, done⟩ := bind_ok_iff.mp done
    cases done
    exact .cons (sound a first given) (ih later)

namespace Catalog

variable {κ α : Type} [DecidableEq κ] {entries : List (κ × α)} {e : κ × α}

theorem mem_entries_put {c : Catalog κ α} {k : κ} {v : α} (member : e ∈ (c.put k v).entries) :
    e = (k, v) ∨ e ∈ c.entries := by
  have found := get?_put c k e.1 v
  rw [get?_eq_some_iff.mpr member] at found
  split at found
  · rename_i same
    exact .inl (Prod.ext same.symm (Option.some.inj found))
  · exact .inr (get?_eq_some_iff.mp found.symm)

theorem mem_of_mem_foldl_put {c : Catalog κ α}
    (member : e ∈ (entries.foldl (fun c (k, v) => c.put k v) c).entries) :
    e ∈ c.entries ∨ e ∈ entries := by
  induction entries generalizing c with
  | nil => exact .inl member
  | cons first rest ih =>
    rcases ih member with before | later
    · rcases mem_entries_put before with rfl | before
      · exact .inr List.mem_cons_self
      · exact .inl before
    · exact .inr (List.mem_cons_of_mem _ later)

/-- A catalog of entries has no others. -/
theorem mem_of_mem_ofList (member : e ∈ (ofList entries).entries) : e ∈ entries :=
  (mem_of_mem_foldl_put member).resolve_left List.not_mem_nil

end Catalog

namespace Load

theorem eq_int_of_patternId {what : String} {d : Data} {n : Int}
    (read : patternId what d = .ok n) : d = .int n := by
  cases d with
  | int m =>
    cases read
    rfl
  | _ => cases read

theorem eq_ints_of_mapM {what : String} {items : List Data} {ids : List Int}
    (read : items.mapM (patternId what) = .ok ids) : items = ids.map .int := by
  rw [← List.forall₂_eq_eq_eq, List.forall₂_map_right_iff]
  exact Work.forall₂_of_mapM_ok (fun _ _ => eq_int_of_patternId) read

end Load

/-! ### Scalars and conditions -/

/-- The data that a scalar is loaded from. An integer is kept as it is, or it is not loaded. -/
inductive Scalar.Wording : Data → Scalar → Prop where
  | scalar (v : Scalar) : Wording (.scalar v) v
  | int (n : Int32) : Wording (.int n.toInt) (.int n)
  | float {x : Double} {v : Scalar} : ofDouble x = .ok v → Wording (.float x) v
  | text {s : Spelling} {v : Scalar} : parse s = .ok v → Wording (.text s) v

theorem Scalar.wording_of_load {d : Data} {v : Scalar} (loaded : load d = .ok v) :
    Wording d v := by
  cases d with
  | scalar w =>
    cases loaded
    exact .scalar v
  | int n =>
    have made : ofInt n = .ok v := by
      unfold load at loaded
      simp only [Data.toScalar] at loaded
      split at loaded
      · cases loaded
        assumption
      · cases loaded
    unfold ofInt at made
    split at made
    · rename_i within
      cases made
      have same : (Int32.ofInt n).toInt = n :=
        Int32.toInt_ofInt_of_le within.1 (Int.lt_add_one_of_le within.2)
      have worded := Wording.int (Int32.ofInt n)
      rwa [same] at worded
    · cases made
  | float x =>
    unfold load at loaded
    simp only [Data.toScalar] at loaded
    split at loaded
    · cases loaded
      exact .float ‹_›
    · cases loaded
  | text s =>
    unfold load at loaded
    dsimp only at loaded
    split at loaded
    · cases loaded
      exact .text ‹_›
    · cases loaded
  | _ => cases loaded

namespace Condition

/-- The data that a condition is loaded from: the word for its kind, then its bounds. -/
inductive Wording : Data → Condition → Prop where
  | single (c : Comparison) {d : Data} {bound : Scalar} : Scalar.Wording d bound →
      Wording (.list [.text (ConditionKind.single c).designator, d]) (.single c bound)
  | range {d e : Data} {low high : Scalar} : Scalar.Wording d low → Scalar.Wording e high →
      Wording (.list [.text ConditionKind.range.designator, d, e]) (.range low high)

theorem eq_text_of_loadKind {word : Data} {kind : ConditionKind}
    (loaded : loadKind word = .ok kind) : word = .text kind.designator := by
  unfold loadKind at loaded
  dsimp only at loaded
  split at loaded
  · split at loaded
    · rename_i found
      cases loaded
      unfold ConditionKind.ofDesignator? at found
      have same := List.find?_some found
      rw [← of_decide_eq_true same]
    · obtain ⟨_, _, loaded⟩ := Work.bind_ok_iff.mp loaded
      cases loaded
  · split at loaded
    · obtain ⟨_, _, loaded⟩ := Work.bind_ok_iff.mp loaded
      cases loaded
    · cases loaded

theorem wording_of_load {d : Data} {c : Condition} (loaded : load d = .ok c) : Wording d c := by
  unfold load at loaded
  split at loaded
  · obtain ⟨kind, known, loaded⟩ := Work.bind_ok_iff.mp loaded
    rw [eq_text_of_loadKind known]
    split at loaded
    · obtain ⟨bound, read, loaded⟩ := Work.bind_ok_iff.mp loaded
      cases loaded
      exact .single _ (Scalar.wording_of_load read)
    · obtain ⟨low, first, loaded⟩ := Work.bind_ok_iff.mp loaded
      obtain ⟨high, second, loaded⟩ := Work.bind_ok_iff.mp loaded
      cases loaded
      exact .range (Scalar.wording_of_load first) (Scalar.wording_of_load second)
    · obtain ⟨_, _, loaded⟩ := Work.bind_ok_iff.mp loaded
      cases loaded
  · cases loaded

end Condition

/-! ### Patterns -/

/-- The data that a pattern node is loaded from. -/
def PatternNode.Wording (d : Data) (n : PatternNode) : Prop :=
  ∃ fields conditions, d = .map fields ∧ Data.entry? fields "id" = some (.int n.id) ∧
    Load.inner fields "values" = .ok conditions ∧
    ∀ e ∈ n.conditions.entries, ∃ field ∈ conditions, field.1.toText = .ok e.1 ∧
      Condition.Wording field.2 e.2

theorem PatternNode.wording_of_load {strict : Bool} {d : Data} {n : PatternNode}
    (loaded : load strict d = .ok n) : Wording d n := by
  obtain ⟨fields, given, loaded⟩ := Work.bind_ok_iff.mp loaded
  obtain ⟨_, _, loaded⟩ := Work.bind_ok_iff.mp loaded
  split at loaded
  · cases loaded
  · rename_i idData found
    obtain ⟨conditions, inner, loaded⟩ := Work.bind_ok_iff.mp loaded
    obtain ⟨id, read, loaded⟩ := Work.bind_ok_iff.mp loaded
    obtain ⟨name?, _, loaded⟩ := Work.bind_ok_iff.mp loaded
    obtain ⟨entries, each, loaded⟩ := Work.bind_ok_iff.mp loaded
    cases loaded
    obtain rfl := Load.eq_int_of_patternId read
    refine ⟨fields, conditions, Load.eq_map_of_mapping given, found, inner, fun e member => ?_⟩
    obtain ⟨field, there, worded⟩ :=
      (Work.members_of_mapM_ok each).1 e (Catalog.mem_of_mem_ofList member)
    obtain ⟨key, written, worded⟩ := Work.bind_ok_iff.mp worded
    obtain ⟨c, read, same⟩ := Work.bind_ok_iff.mp worded
    cases same
    exact ⟨field, there, Work.mapError_ok_iff.mp written, Condition.wording_of_load read⟩

namespace Pattern

/-- The data that a pattern is loaded from. -/
def Wording (d : Data) (p : Pattern) : Prop :=
  ∃ fields items, d = .map fields ∧
    Load.parts fields "nodes" = .ok items ∧ List.Forall₂ PatternNode.Wording items p.nodes ∧
    Load.parts fields "edges" = .ok (p.edges.map fun e => .list [.int e.1, .int e.2])

theorem eq_pair_of_loadEdge {d : Data} {e : Int × Int} (loaded : loadEdge d = .ok e) :
    d = .list [.int e.1, .int e.2] := by
  unfold loadEdge at loaded
  split at loaded
  · obtain ⟨a, first, loaded⟩ := Work.bind_ok_iff.mp loaded
    obtain ⟨b, second, loaded⟩ := Work.bind_ok_iff.mp loaded
    cases loaded
    rw [Load.eq_int_of_patternId first, Load.eq_int_of_patternId second]
  · cases loaded

theorem parts_of_ofParts? {nodes : List PatternNode} {edges : List (Int × Int)} {p : Pattern}
    (made : ofParts? nodes edges = .ok p) : p.nodes = nodes ∧ p.edges = edges := by
  unfold ofParts? at made
  split at made
  · cases made
  · split at made
    · cases made
    · cases made
      exact ⟨rfl, rfl⟩

theorem wording_of_load {strict : Bool} {d : Data} {p : Pattern}
    (loaded : load strict d = .ok p) : Wording d p := by
  obtain ⟨fields, given, loaded⟩ := Work.bind_ok_iff.mp loaded
  obtain ⟨_, _, loaded⟩ := Work.bind_ok_iff.mp loaded
  obtain ⟨pairs, foundEdges, loaded⟩ := Work.bind_ok_iff.mp loaded
  obtain ⟨edges, eachEdge, loaded⟩ := Work.bind_ok_iff.mp loaded
  obtain ⟨items, foundNodes, loaded⟩ := Work.bind_ok_iff.mp loaded
  obtain ⟨nodes, eachNode, loaded⟩ := Work.bind_ok_iff.mp loaded
  have made : ofParts? nodes edges = .ok p := by
    cases made : ofParts? nodes edges with
    | error fault =>
      rw [made] at loaded
      obtain ⟨_, _, loaded⟩ := Work.bind_ok_iff.mp loaded
      cases loaded
    | ok q =>
      rw [made] at loaded
      cases loaded
      rfl
  obtain ⟨rfl, rfl⟩ := parts_of_ofParts? made
  refine ⟨fields, items, Load.eq_map_of_mapping given, foundNodes,
    Work.forall₂_of_mapM_ok (fun _ _ => PatternNode.wording_of_load) eachNode, ?_⟩
  have written : pairs = p.edges.map fun e => .list [.int e.1, .int e.2] := by
    rw [← List.forall₂_eq_eq_eq, List.forall₂_map_right_iff]
    exact Work.forall₂_of_mapM_ok (fun _ _ => eq_pair_of_loadEdge) eachEdge
  rw [foundEdges, written]

end Pattern

/-! ### Procedures -/

namespace Procedure

/-- The data that a procedure is loaded from. A merge has two forms, of which the list has a target
at least. -/
inductive Wording : Data → Procedure → Prop where
  | delete (target : Int) : Wording (.map [(.text "delete", .int target)]) (.delete target)
  | replace {fields : Load.Fields} {target : Int} (replacement : Template) :
      Data.entry? fields "target" = some (.int target) →
      Wording (.map [(.text "replace", .map fields)]) (.replace target replacement)
  | add {fields : Load.Fields} {neighbors : List Int} (node : Template) :
      Load.parts fields "neighbors" = .ok (neighbors.map .int) →
      Wording (.map [(.text "add", .map fields)]) (.add neighbors node)
  | mergeFields {fields : Load.Fields} {targets : List Int} {survivor : Int} :
      Data.entry? fields "final_node" = some (.int survivor) →
      Load.parts fields "targets" = .ok (targets.map .int) →
      Wording (.map [(.text "merge", .map fields)]) (.merge targets survivor)
  | mergeList (target : Int) (targets : List Int) (survivor : Int) :
      Wording (.map [(.text "merge", .list ((survivor :: target :: targets).map .int))])
        (.merge (target :: targets) survivor)

theorem wording_of_loadReplace {strict : Bool} {d : Data} {p : Procedure}
    (loaded : loadReplace strict d = .ok p) : Wording (.map [(.text "replace", d)]) p := by
  obtain ⟨fields, given, loaded⟩ := Work.bind_ok_iff.mp loaded
  obtain ⟨_, _, loaded⟩ := Work.bind_ok_iff.mp loaded
  obtain rfl := Load.eq_map_of_mapping given
  extract_lets given template at loaded
  split at loaded
  · rename_i found _
    obtain ⟨target, read, loaded⟩ := Work.bind_ok_iff.mp loaded
    obtain ⟨replacement, _, loaded⟩ := Work.bind_ok_iff.mp loaded
    cases loaded
    exact .replace replacement (Load.eq_int_of_patternId read ▸ found)
  · cases loaded

theorem wording_of_loadAdd {strict : Bool} {d : Data} {p : Procedure}
    (loaded : loadAdd strict d = .ok p) : Wording (.map [(.text "add", d)]) p := by
  obtain ⟨fields, given, loaded⟩ := Work.bind_ok_iff.mp loaded
  obtain ⟨_, _, loaded⟩ := Work.bind_ok_iff.mp loaded
  obtain rfl := Load.eq_map_of_mapping given
  split at loaded
  · cases loaded
  · obtain ⟨parts, found, loaded⟩ := Work.bind_ok_iff.mp loaded
    obtain ⟨neighbors, each, loaded⟩ := Work.bind_ok_iff.mp loaded
    obtain ⟨node, _, loaded⟩ := Work.bind_ok_iff.mp loaded
    cases loaded
    exact .add node (Load.eq_ints_of_mapM each ▸ found)

theorem wording_of_loadMerge {strict : Bool} {d : Data} {p : Procedure}
    (loaded : loadMerge strict d = .ok p) : Wording (.map [(.text "merge", d)]) p := by
  unfold loadMerge at loaded
  split at loaded
  · rename_i fields
    obtain ⟨_, _, loaded⟩ := Work.bind_ok_iff.mp loaded
    obtain ⟨survivor, read, loaded⟩ := Work.bind_ok_iff.mp loaded
    obtain ⟨parts, found, loaded⟩ := Work.bind_ok_iff.mp loaded
    obtain ⟨targets, each, loaded⟩ := Work.bind_ok_iff.mp loaded
    cases loaded
    refine .mergeFields ?_ (Load.eq_ints_of_mapM each ▸ found)
    -- A survivor that is missing counts as nothing, which is no pattern id.
    have named := Load.eq_int_of_patternId read
    cases final : Data.entry? fields "final_node" with
    | none =>
      rw [final] at named
      cases named
    | some d =>
      rw [final] at named
      exact congrArg some named
  · obtain ⟨survivor, first, loaded⟩ := Work.bind_ok_iff.mp loaded
    obtain ⟨targets, each, loaded⟩ := Work.bind_ok_iff.mp loaded
    cases loaded
    have written := Load.eq_ints_of_mapM each
    cases targets with
    | nil => cases written
    | cons target targets =>
      rw [Load.eq_int_of_patternId first, written]
      exact .mergeList target targets survivor
  · cases loaded

theorem wording_of_load {strict : Bool} {d : Data} {p : Procedure}
    (loaded : load strict d = .ok p) : Wording d p := by
  unfold load at loaded
  split at loaded
  · split at loaded
    · obtain ⟨target, read, loaded⟩ := Work.bind_ok_iff.mp loaded
      cases loaded
      rw [Load.eq_int_of_patternId read]
      exact .delete target
    · exact wording_of_loadReplace loaded
    · exact wording_of_loadAdd loaded
    · exact wording_of_loadMerge loaded
    · obtain ⟨_, _, loaded⟩ := Work.bind_ok_iff.mp loaded
      cases loaded
  · cases loaded

end Procedure

/-! ### Rules -/

theorem Condition.length_bounds (c : Condition) : c.bounds.length = boundCount c.kind := by
  cases c <;> rfl

theorem Scalar.within_of_toInt? {v : Scalar} {n : Int} (stored : v.toInt? = .ok n) :
    -2147483648 ≤ n ∧ n ≤ 2147483647 := by
  cases v with
  | int m =>
    cases stored
    exact ⟨m.le_toInt, Int.le_of_lt_add_one m.toInt_lt⟩
  | float x => cases stored

namespace Rule

/-- The data that a rule is loaded from. -/
def Wording (d : Data) (r : Rule) : Prop :=
  ∃ fields pattern parts, d = .map fields ∧ Data.entry? fields "from" = some pattern ∧
    Pattern.Wording pattern r.pattern ∧ Load.parts fields "to" = .ok parts ∧
    List.Forall₂ Procedure.Wording parts r.procedures

variable {strict : Bool} {d : Data} {r : Rule} {s t : Scene} {b : Bindings} {p : Procedure}

theorem load_pattern (loaded : load strict d = .ok r) :
    ∃ fields pattern, d = .map fields ∧ Data.entry? fields "from" = some pattern ∧
      Pattern.load strict pattern = .ok r.pattern := by
  obtain ⟨fields, given, loaded⟩ := Work.bind_ok_iff.mp loaded
  obtain ⟨_, _, loaded⟩ := Work.bind_ok_iff.mp loaded
  split at loaded
  · cases loaded
  · rename_i found
    obtain ⟨pattern, read, loaded⟩ := Work.bind_ok_iff.mp loaded
    obtain ⟨parts, _, loaded⟩ := Work.bind_ok_iff.mp loaded
    obtain ⟨procedures, _, loaded⟩ := Work.bind_ok_iff.mp loaded
    obtain ⟨_, _, loaded⟩ := Work.bind_ok_iff.mp loaded
    cases loaded
    exact ⟨fields, _, Load.eq_map_of_mapping given, found, read⟩

theorem wording_of_load (loaded : load strict d = .ok r) : Wording d r := by
  obtain ⟨fields, pattern, rfl, given, read⟩ := load_pattern loaded
  obtain ⟨others, parts, same, found, each, -⟩ := load_ok loaded
  cases same
  exact ⟨fields, pattern, parts, rfl, given, Pattern.wording_of_load read, found,
    Work.forall₂_of_mapM_ok (fun _ _ => Procedure.wording_of_load) each⟩

/-- A match binds what is declared, to nodes that are there. -/
theorem exists_bound_of_declared (occurs : r.pattern.Occurs s r.checkValues b) {n : Int}
    (declared : n ∈ r.pattern.ids) : ∃ id, b.get? n = some id ∧ s.contains id = true := by
  obtain ⟨m, member, rfl⟩ := List.mem_map.mp declared
  obtain ⟨id, node, bound, -, there, -⟩ := occurs.accepts m member
  refine ⟨id, bound, ?_⟩
  rw [Scene.contains, Catalog.contains_eq_isSome_get?]
  exact Option.isSome_iff_exists.mpr ⟨node, there⟩

theorem Admitted.targetsBound (admitted : r.Admitted)
    (occurs : r.pattern.Occurs s r.checkValues b) (member : p ∈ r.procedures) :
    p.targetsBound b = true := by
  refine List.all_eq_true.mpr fun n named => ?_
  obtain ⟨id, bound, -⟩ := exists_bound_of_declared occurs (admitted.declared p member n named)
  exact Option.isSome_iff_exists.mpr ⟨id, bound⟩

theorem Admitted.targetsLive_eq_false_iff (admitted : r.Admitted)
    (occurs : r.pattern.Occurs s r.checkValues b) (member : p ∈ r.procedures) :
    p.targetsLive b t = false ↔ ∃ n ∈ p.references, ∃ id, b.get? n = some id ∧
      s.contains id = true ∧ t.contains id = false := by
  rw [Procedure.targetsLive_eq_false_iff]
  constructor
  · rintro ⟨n, named, gone⟩
    obtain ⟨id, bound, there⟩ :=
      exists_bound_of_declared occurs (admitted.declared p member n named)
    exact ⟨n, named, id, bound, there, gone id bound⟩
  · rintro ⟨n, named, id, bound, -, gone⟩
    refine ⟨n, named, fun other found => ?_⟩
    obtain rfl := Option.some.inj (bound.symm.trans found)
    exact gone

/-- What holds of every rule that is loaded, whatever the data and strictly or not: what the data
say, that nothing is named which is not declared, and that all formulas can be read. Wherever its
matches are found, each of them binds all that the procedures name, so that the targets of one are
not all there only when a node of them has gone since. -/
theorem loaded_holds_together (loaded : load strict d = .ok r) :
    Wording d r ∧ r.pattern.ids.Nodup ∧
    (∀ e ∈ r.pattern.edges, e.1 ∈ r.pattern.ids ∧ e.2 ∈ r.pattern.ids) ∧
    (∀ m ∈ r.pattern.nodes, ∀ e ∈ m.conditions.entries,
      e.2.bounds.length = Condition.boundCount e.2.kind ∧
      ∀ v ∈ e.2.bounds, ∀ n, v.toInt? = .ok n → -2147483648 ≤ n ∧ n ≤ 2147483647) ∧
    (∀ p ∈ r.procedures, ∀ n ∈ p.references, n ∈ r.pattern.ids) ∧
    (∀ p ∈ r.procedures, ∀ template ∈ p.template?, ∀ text ∈ template.formulas.values,
      (Formula.parse text).isOk = true) ∧
    ∀ site : Site, ∃ found, (r.findMatches.run site).1 = .ok found ∧
      ∀ b ∈ found, ∀ p ∈ r.procedures, p.targetsBound b = true ∧
        ∀ t, p.targetsLive b t = false ↔ ∃ n ∈ p.references, ∃ id, b.get? n = some id ∧
          site.scene.contains id = true ∧ t.contains id = false := by
  have admitted := admitted_of_load loaded
  refine ⟨wording_of_load loaded, r.pattern.distinct, r.pattern.declared,
    fun m _ e _ => ⟨e.2.length_bounds, fun v _ n => Scalar.within_of_toInt?⟩,
    admitted.declared, admitted.parses, fun site => ?_⟩
  refine ⟨_, congrArg Prod.fst (r.findMatches_run site), fun b found p member => ?_⟩
  -- A pass that keeps all matches has those found.
  have kept : b ∈ r.kept (fun _ _ => true) site.scene :=
    List.mem_filter.mpr ⟨found, rfl⟩
  have occurs := occurs_of_mem_kept kept
  exact ⟨admitted.targetsBound occurs member,
    fun t => admitted.targetsLive_eq_false_iff occurs member⟩

/-- Two nodes that the rule of the loose data matches. -/
def budOnStem : Scene :=
  let stem := Scene.empty.insert ⟨"True", ⟨[("None", .float (.infinite true))], by decide⟩⟩
  ((Scene.addEdge 0 1).run (stem.2.insert { name := "bud" }).2).2

def budMatch : Bindings := .ofList [(0, 0), (1, 1)]

/-- Its one match there binds the nodes of the merge and of the replacement, and loses the target of
the latter when the bud is removed. -/
theorem loose_holds_together :
    load false loose = .ok tidy ∧ Wording loose tidy ∧
      (tidy.findMatches.run ⟨budOnStem, .unseeded, []⟩).1 = .ok [budMatch] ∧
      ∀ p ∈ tidy.procedures, p.targetsBound budMatch = true ∧
        p.targetsLive budMatch (budOnStem.remove 1).2 = false := by
  have loaded : load false loose = .ok tidy := by rfl
  obtain ⟨worded, -, -, -, -, -, searched⟩ := loaded_holds_together loaded
  obtain ⟨found, ran, bound⟩ := searched ⟨budOnStem, .unseeded, []⟩
  have kept : tidy.kept (fun _ _ => true) budOnStem = [budMatch] := by
    rw [kept_eq]
    rfl
  obtain rfl : found = [budMatch] := by
    rw [findMatches_run] at ran
    cases ran
    exact (List.filter_eq_self.mpr fun _ _ => rfl).symm.trans kept
  refine ⟨loaded, worded, ran, fun p member => ?_⟩
  obtain ⟨all, live⟩ := bound budMatch List.mem_cons_self p member
  refine ⟨all, (live _).mpr ⟨1, ?_, 1, rfl, rfl, rfl⟩⟩
  have named : ∀ p ∈ tidy.procedures, 1 ∈ p.references := by decide
  exact named p member

end Rule

end GrowthGrammar
