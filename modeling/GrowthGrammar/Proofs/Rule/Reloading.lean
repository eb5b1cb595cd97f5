import GrowthGrammar.Proofs.Number.Loading
import GrowthGrammar.Proofs.Rule.Effect
import GrowthGrammar.Proofs.Rule.Fields
import GrowthGrammar.Proofs.Writing
import GrowthGrammar.Rule.Saving

/-!
Reloading: what is saved can be loaded again. Each part of a rule is the one that its data is loaded
as; what a rule has to have for this is that its procedures name ids of the pattern, that its
formulas are formulas and that its merges have targets. For a rule to be saved at all it must be
possible to write out its id.
-/
namespace GrowthGrammar

/-! ### Conditions -/

theorem ConditionKind.ofDesignator?_designator (kind : ConditionKind) :
    ofDesignator? kind.designator = some kind := by
  rcases kind with (_ | _ | _ | _ | _) | _ <;> decide

namespace Condition

theorem loadKind_designator (kind : ConditionKind) :
    loadKind (.text kind.designator) = .ok kind := by
  simp only [loadKind, kind.ofDesignator?_designator]

theorem load_toData (c : Condition) : load c.toData = .ok c := by
  cases c with
  | single c bound =>
    simp only [toData, load, kind, bounds, loadKind_designator, List.map_cons, List.map_nil]
    change (Scalar.load bound.toData >>= _) = _
    rw [bound.load_toData]
    rfl
  | range low high =>
    simp only [toData, load, kind, bounds, loadKind_designator, List.map_cons, List.map_nil]
    change (Scalar.load low.toData >>= fun l => Scalar.load high.toData >>= _) = _
    rw [low.load_toData, high.load_toData]
    rfl

theorem mapM_load_toData (entries : List (Spelling × Condition)) :
    (entries.map fun (key, c) => (Data.text key, c.toData)).mapM
      (fun (key, condition) => do return (← Load.text key, ← load condition)) = .ok entries := by
  refine Work.mapM_map_ok fun e _ => ?_
  show (load e.2.toData >>= fun c => .ok (e.1, c)) = .ok e
  rw [e.2.load_toData]
  rfl

end Condition

theorem Catalog.ofList_entries {κ α : Type} [DecidableEq κ] (c : Catalog κ α) :
    ofList c.entries = c := ext_entries (entries_ofList c.distinct)

/-! ### Patterns -/

namespace PatternNode

/-- The fields of a pattern node's data, of which the name and the values may be missing. -/
theorem toData_fields (p : PatternNode) :
    ∃ fields, p.toData = .map fields ∧
      (∀ field ∈ fields, Load.isAmong ["id", "name", "values"] field.1 = true) ∧
      Data.entry? fields "id" = some (.int p.id) ∧
      Data.entry? fields "name" = p.name?.map .text ∧
      Load.inner fields "values" =
        .ok (p.conditions.entries.map fun (key, c) => (.text key, c.toData)) := by
  refine ⟨_, rfl, ?_, ?_, ?_, ?_⟩
  all_goals
    cases p.name? <;> cases p.conditions.entries <;> simp [Load.inner_map, Load.inner_none]

theorem load_toData (strict : Bool) (p : PatternNode) : load strict p.toData = .ok p := by
  obtain ⟨fields, data, known, id, name, values⟩ := p.toData_fields
  rw [data]
  simp only [load, Load.mapping, Work.ok_bind, Load.checkFields_ok known, id, name, values,
    Load.patternId, Condition.mapM_load_toData, Catalog.ofList_entries]
  cases p with
  | mk id name? conditions => cases name? <;> rfl

end PatternNode

namespace Pattern

theorem firstRepeated?_of_nodup {seen ids : List Int} (distinct : ids.Nodup)
    (apart : ∀ id ∈ ids, id ∉ seen) : firstRepeated? seen ids = none := by
  induction ids generalizing seen with
  | nil => rfl
  | cons id rest ih =>
    obtain ⟨absent, later⟩ := List.nodup_cons.mp distinct
    rw [firstRepeated?, if_neg (apart id List.mem_cons_self)]
    refine ih later fun other member => ?_
    rw [List.mem_cons, not_or]
    exact ⟨fun same => absent (same ▸ member), apart other (List.mem_cons_of_mem _ member)⟩

theorem firstUndeclared?_of_declared {ids : List Int} {edges : List (Int × Int)}
    (declared : ∀ e ∈ edges, e.1 ∈ ids ∧ e.2 ∈ ids) : firstUndeclared? ids edges = none := by
  induction edges with
  | nil => rfl
  | cons e rest ih =>
    obtain ⟨first, second⟩ := declared e List.mem_cons_self
    rw [firstUndeclared?, if_neg (not_not_intro first), if_neg (not_not_intro second)]
    exact ih fun other member => declared other (List.mem_cons_of_mem _ member)

theorem ofParts?_parts (p : Pattern) : ofParts? p.nodes p.edges = .ok p := by
  unfold ofParts?
  split
  · rename_i id repeated
    rw [firstRepeated?_of_nodup p.distinct fun _ _ => List.not_mem_nil] at repeated
    cases repeated
  · split
    · rename_i undeclared
      rw [firstUndeclared?_of_declared p.declared] at undeclared
      cases undeclared
    · rfl

theorem mapM_loadEdge (edges : List (Int × Int)) :
    (edges.map fun (a, b) => Data.list [.int a, .int b]).mapM loadEdge = .ok edges :=
  Work.mapM_map_ok fun _ _ => rfl

theorem load_toData (strict : Bool) (p : Pattern) : load strict p.toData = .ok p := by
  have nodes : (p.nodes.map PatternNode.toData).mapM (PatternNode.load strict) = .ok p.nodes :=
    Work.mapM_map_ok fun node _ => node.load_toData strict
  simp only [load, toData, Load.mapping, Work.ok_bind]
  rw [Load.checkFields_ok (by simp), Load.parts_list rfl, Load.parts_list rfl]
  simp only [Work.ok_bind, mapM_loadEdge, nodes, p.ofParts?_parts]
  rfl

end Pattern

/-! ### Procedures -/

namespace Template

def Parses (t : Template) : Prop := ∀ text ∈ t.formulas.values, (Formula.parse text).isOk = true

instance (t : Template) : Decidable t.Parses :=
  inferInstanceAs (Decidable (∀ text ∈ t.formulas.values, (Formula.parse text).isOk = true))

theorem validate_ok_iff {t : Template} : t.validate = .ok () ↔ t.Parses := by
  constructor
  · intro valid text member
    obtain ⟨formula, parsed, -⟩ := Work.bind_ok_iff.mp (Work.of_forM_ok valid text member)
    exact Work.isOk_iff.mpr ⟨formula, parsed⟩
  · intro parses
    refine Work.forM_ok fun text member => ?_
    obtain ⟨formula, parsed⟩ := Work.isOk_iff.mp (parses text member)
    exact Work.bind_ok_iff.mpr ⟨formula, parsed, rfl⟩

theorem ofEntries_texts (t : Template) :
    ofEntries (.text t.name) (t.formulas.entries.map fun (key, text) => (.text key, .text text)) =
      .ok t := by
  have texts : (t.formulas.entries.map fun (key, text) => (Data.text key, Data.text text)).mapM
      (fun (key, d) => do return (← key.toText, ← d.toText)) = .ok t.formulas.entries :=
    Work.mapM_map_ok fun _ _ => rfl
  show (List.mapM _ _ >>= fun formulas => Except.ok (Template.mk t.name (.ofList formulas))) = _
  rw [texts, Work.ok_bind, Catalog.ofList_entries]

theorem load_toData (strict : Bool) {t : Template} (parses : t.Parses) :
    load strict t.toData = .ok t := by
  simp only [load, toData, Load.mapping, Work.ok_bind]
  rw [Load.checkFields_ok (by simp), Load.inner_map rfl]
  simp only [Work.ok_bind, Data.entry?_text_cons, if_true, t.ofEntries_texts]
  show ((validate t).mapError LoadFault.formula >>= fun _ => .ok t) = .ok t
  rw [validate_ok_iff.mpr parses]
  rfl

theorem parses_of_load {strict : Bool} {d : Data} {t : Template} (loaded : load strict d = .ok t) :
    t.Parses := by
  obtain ⟨fields, _, loaded⟩ := Work.bind_ok_iff.mp loaded
  obtain ⟨_, _, loaded⟩ := Work.bind_ok_iff.mp loaded
  split at loaded
  · cases loaded
  · obtain ⟨values, _, loaded⟩ := Work.bind_ok_iff.mp loaded
    obtain ⟨template, _, loaded⟩ := Work.bind_ok_iff.mp loaded
    obtain ⟨_, valid, loaded⟩ := Work.bind_ok_iff.mp loaded
    cases loaded
    rw [← validate_ok_iff]
    generalize validate _ = answer at valid ⊢
    cases answer with
    | ok => rfl
    | error fault => cases valid

end Template

/-- How the data of a merge without targets are refused. -/
def Load.tooFew (survivor : Int) : LoadFault :=
  .report ⟨"invalid_procedure", "merge takes at least 2 pattern ids, the survivor first",
    [Report.detail "value" (.list [.int survivor])]⟩

namespace Procedure

/-- The survivor of a merge without targets. -/
def alone? : Procedure → Option Int
  | .merge [] survivor => some survivor
  | _ => none

def Parses (p : Procedure) : Prop := ∀ t ∈ p.template?, t.Parses

instance (p : Procedure) : Decidable p.Parses :=
  inferInstanceAs (Decidable (∀ t ∈ p.template?, t.Parses))

theorem mapM_patternId (what : String) (ids : List Int) :
    (ids.map Data.int).mapM (Load.patternId what) = .ok ids :=
  Work.mapM_map_ok fun _ _ => rfl

/-- Only a merge without targets is not loaded as what was saved. -/
theorem load_toData (strict : Bool) {p : Procedure} (parses : p.Parses) :
    load strict p.toData =
      p.alone?.elim (.ok p) fun survivor => .error (Load.tooFew survivor) := by
  cases p with
  | delete target => rfl
  | replace target replacement =>
    have template := replacement.load_toData strict (parses _ rfl)
    simp only [load, loadReplace, toData, Load.mapping, Work.ok_bind]
    rw [Load.checkFields_ok (by simp)]
    show (Template.load strict replacement.toData >>= fun t => .ok (replace target t)) = _
    rw [template]
    rfl
  | add neighbors node =>
    have template := node.load_toData strict (parses _ rfl)
    simp only [load, loadAdd, toData, Load.mapping, Work.ok_bind]
    rw [Load.checkFields_ok (by simp), Load.parts_list rfl]
    change ((neighbors.map Data.int).mapM _ >>= fun _ => Template.load strict node.toData >>= _) = _
    rw [mapM_patternId, template]
    rfl
  | merge targets survivor =>
    cases targets with
    | nil => rfl
    | cons target rest =>
      show (((target :: rest).map Data.int).mapM (Load.patternId "merge target") >>= fun targets =>
        .ok (Procedure.merge targets survivor)) = _
      rw [mapM_patternId]
      rfl

/-! #### What was loaded -/

theorem loadReplace_ok {strict : Bool} {d : Data} {p : Procedure}
    (loaded : loadReplace strict d = .ok p) :
    ∃ target replacement, p = .replace target replacement ∧ replacement.Parses := by
  obtain ⟨fields, _, loaded⟩ := Work.bind_ok_iff.mp loaded
  obtain ⟨_, _, loaded⟩ := Work.bind_ok_iff.mp loaded
  extract_lets given template at loaded
  split at loaded
  · obtain ⟨target, _, loaded⟩ := Work.bind_ok_iff.mp loaded
    obtain ⟨replacement, read, loaded⟩ := Work.bind_ok_iff.mp loaded
    cases loaded
    exact ⟨target, replacement, rfl, Template.parses_of_load read⟩
  · cases loaded

theorem loadAdd_ok {strict : Bool} {d : Data} {p : Procedure} (loaded : loadAdd strict d = .ok p) :
    ∃ neighbors node, p = .add neighbors node ∧ node.Parses := by
  obtain ⟨fields, _, loaded⟩ := Work.bind_ok_iff.mp loaded
  obtain ⟨_, _, loaded⟩ := Work.bind_ok_iff.mp loaded
  split at loaded
  · cases loaded
  · obtain ⟨parts, _, loaded⟩ := Work.bind_ok_iff.mp loaded
    obtain ⟨neighbors, _, loaded⟩ := Work.bind_ok_iff.mp loaded
    obtain ⟨node, read, loaded⟩ := Work.bind_ok_iff.mp loaded
    cases loaded
    exact ⟨neighbors, node, rfl, Template.parses_of_load read⟩

/-- A list with a survivor alone is refused, a mapping is not. -/
theorem loadMerge_ok {strict : Bool} {d : Data} {p : Procedure}
    (loaded : loadMerge strict d = .ok p) :
    ∃ targets survivor, p = .merge targets survivor ∧
      (targets = [] ↔ ∃ fields, d = .map fields ∧ Load.parts fields "targets" = .ok []) := by
  unfold loadMerge at loaded
  split at loaded
  · rename_i fields
    obtain ⟨_, _, loaded⟩ := Work.bind_ok_iff.mp loaded
    obtain ⟨survivor, _, loaded⟩ := Work.bind_ok_iff.mp loaded
    obtain ⟨parts, found, loaded⟩ := Work.bind_ok_iff.mp loaded
    obtain ⟨targets, each, loaded⟩ := Work.bind_ok_iff.mp loaded
    cases loaded
    refine ⟨targets, survivor, rfl, ?_⟩
    rw [Work.eq_nil_iff_of_mapM_ok each]
    constructor
    · rintro rfl
      exact ⟨fields, rfl, found⟩
    · rintro ⟨others, same, none⟩
      cases same
      exact Except.ok.inj (found.symm.trans none)
  · obtain ⟨survivor, _, loaded⟩ := Work.bind_ok_iff.mp loaded
    obtain ⟨targets, each, loaded⟩ := Work.bind_ok_iff.mp loaded
    cases loaded
    exact ⟨targets, survivor, rfl, by simp [Work.eq_nil_iff_of_mapM_ok each]⟩
  · cases loaded

theorem parses_of_load {strict : Bool} {d : Data} {p : Procedure}
    (loaded : load strict d = .ok p) : p.Parses := by
  unfold load at loaded
  split at loaded
  · split at loaded
    · obtain ⟨target, _, loaded⟩ := Work.bind_ok_iff.mp loaded
      cases loaded
      exact nofun
    · obtain ⟨target, replacement, rfl, parses⟩ := loadReplace_ok loaded
      exact fun t same => Option.some.inj same ▸ parses
    · obtain ⟨neighbors, node, rfl, parses⟩ := loadAdd_ok loaded
      exact fun t same => Option.some.inj same ▸ parses
    · obtain ⟨targets, survivor, rfl, -⟩ := loadMerge_ok loaded
      exact nofun
    · obtain ⟨_, _, loaded⟩ := Work.bind_ok_iff.mp loaded
      cases loaded
  · cases loaded

theorem alone?_merge (targets : List Int) (survivor : Int) :
    (merge targets survivor).alone?.isSome = true ↔ targets = [] := by
  cases targets <;> simp [alone?]

/-- The only data that are loaded as a merge without targets are mappings that have none. -/
theorem alone_iff_of_load {strict : Bool} {d : Data} {p : Procedure}
    (loaded : load strict d = .ok p) : p.alone?.isSome = true ↔
      ∃ fields, d = .map [(.text "merge", .map fields)] ∧
        Load.parts fields "targets" = .ok [] := by
  unfold load at loaded
  split at loaded
  · split at loaded
    · obtain ⟨target, _, loaded⟩ := Work.bind_ok_iff.mp loaded
      cases loaded
      simp [alone?]
    · obtain ⟨target, replacement, rfl, -⟩ := loadReplace_ok loaded
      simp [alone?]
    · obtain ⟨neighbors, node, rfl, -⟩ := loadAdd_ok loaded
      simp [alone?]
    · obtain ⟨targets, survivor, rfl, none⟩ := loadMerge_ok loaded
      rw [alone?_merge, none]
      simp
    · obtain ⟨_, _, loaded⟩ := Work.bind_ok_iff.mp loaded
      cases loaded
  · cases loaded

theorem mapM_load_toData (strict : Bool) {procedures : List Procedure}
    (parses : ∀ p ∈ procedures, p.Parses) :
    (procedures.map toData).mapM (load strict) = (procedures.findSome? alone?).elim
      (.ok procedures) fun survivor => .error (Load.tooFew survivor) := by
  have each := Work.mapM_of_reason? fun p member => load_toData strict (parses p member)
  rw [List.map_id'] at each
  rw [List.mapM_map]
  exact each

end Procedure

/-! ### Rules -/

namespace Rule

/-- What every rule that was loaded has: its procedures name ids of the pattern, and their formulas
can be read. -/
structure Admitted (r : Rule) : Prop where
  declared : ∀ p ∈ r.procedures, ∀ id ∈ p.references, id ∈ r.pattern.ids
  parses : ∀ p ∈ r.procedures, p.Parses

theorem checkReferences_ok {pattern : Pattern} {procedures : List Procedure}
    (declared : ∀ p ∈ procedures, ∀ id ∈ p.references, id ∈ pattern.ids) :
    checkReferences pattern procedures = .ok () :=
  Work.forM_ok fun p member => Work.forM_ok fun id named => if_pos (declared p member id named)

theorem toData_of_text {r : Rule} {id : Spelling} (named : r.id.text = .ok id) :
    r.toData = .ok (.map [(.text "id", .text id), (.text "from", r.pattern.toData),
      (.text "to", .list (r.procedures.map Procedure.toData)),
      (.text "match_values", .bool r.checkValues),
      (.text "symmetry_breaking", .bool r.symmetryBreaking)]) := by
  rw [toData, named]
  rfl

theorem toData_error_iff {r : Rule} {fault : NumberFault} :
    r.toData = .error fault ↔ r.id.text = .error fault := by
  rw [toData]
  cases r.id.text with
  | ok id => exact iff_of_false nofun nofun
  | error other => exact ⟨fun same => by cases same; rfl, fun same => by cases same; rfl⟩

/-- The first merge without targets decides whether a saved rule can be loaded again. -/
theorem map_load_toData (strict : Bool) {r : Rule} (admitted : r.Admitted) :
    r.toData.map (load strict) = r.id.text.map fun id =>
      (r.procedures.findSome? Procedure.alone?).elim (.ok { r with id := .given (.text id) })
        fun survivor => .error (Load.tooFew survivor) := by
  cases named : r.id.text with
  | error fault => rw [toData_error_iff.mpr named]; rfl
  | ok id =>
    rw [toData_of_text named]
    refine congrArg Except.ok ?_
    simp only [load, Load.mapping, Work.ok_bind]
    rw [Load.checkFields_ok (by simp), Load.parts_list rfl]
    have pattern : Data.entry? [(.text "id", .text id), (.text "from", r.pattern.toData),
      (.text "to", .list (r.procedures.map Procedure.toData)),
      (.text "match_values", .bool r.checkValues),
      (.text "symmetry_breaking", .bool r.symmetryBreaking)] "from" = some r.pattern.toData := rfl
    simp only [Work.ok_bind, r.pattern.load_toData, pattern]
    rw [Procedure.mapM_load_toData strict admitted.parses]
    cases r.procedures.findSome? Procedure.alone? with
    | some survivor => rfl
    | none =>
      simp only [Option.elim_none, Work.ok_bind]
      rw [checkReferences_ok admitted.declared]
      rfl

theorem references_of_check {pattern : Pattern} {procedures : List Procedure}
    (checked : checkReferences pattern procedures = .ok ()) :
    ∀ p ∈ procedures, ∀ id ∈ p.references, id ∈ pattern.ids := by
  intro p member id named
  have passed := Work.of_forM_ok (Work.of_forM_ok checked p member) id named
  by_contra absent
  rw [if_neg absent] at passed
  obtain ⟨_, _, passed⟩ := Work.bind_ok_iff.mp passed
  cases passed

theorem load_ok {strict : Bool} {d : Data} {r : Rule} (loaded : load strict d = .ok r) :
    ∃ fields parts, d = .map fields ∧ Load.parts fields "to" = .ok parts ∧
      parts.mapM (Procedure.load strict) = .ok r.procedures ∧
      checkReferences r.pattern r.procedures = .ok () ∧
      r.id = (Data.entry? fields "id").elim .generated .given := by
  obtain ⟨fields, given, loaded⟩ := Work.bind_ok_iff.mp loaded
  obtain ⟨_, _, loaded⟩ := Work.bind_ok_iff.mp loaded
  split at loaded
  · cases loaded
  · obtain ⟨pattern, _, loaded⟩ := Work.bind_ok_iff.mp loaded
    obtain ⟨parts, found, loaded⟩ := Work.bind_ok_iff.mp loaded
    obtain ⟨procedures, each, loaded⟩ := Work.bind_ok_iff.mp loaded
    obtain ⟨_, checked, loaded⟩ := Work.bind_ok_iff.mp loaded
    cases loaded
    refine ⟨fields, parts, Load.eq_map_of_mapping given, found, each, checked, ?_⟩
    cases Data.entry? fields "id" <;> rfl

theorem admitted_of_load {strict : Bool} {d : Data} {r : Rule} (loaded : load strict d = .ok r) :
    r.Admitted := by
  obtain ⟨fields, parts, -, -, each, checked, -⟩ := load_ok loaded
  refine ⟨references_of_check checked, fun p member => ?_⟩
  obtain ⟨part, -, given⟩ := (Work.members_of_mapM_ok each).1 p member
  exact Procedure.parses_of_load given

/-- The data that are loaded as a rule with a merge without targets. -/
theorem alone_iff_of_load {strict : Bool} {d : Data} {r : Rule} (loaded : load strict d = .ok r) :
    (r.procedures.findSome? Procedure.alone?).isSome = true ↔
      ∃ fields parts body, d = .map fields ∧ Load.parts fields "to" = .ok parts ∧
        .map [(.text "merge", .map body)] ∈ parts ∧ Load.parts body "targets" = .ok [] := by
  obtain ⟨fields, parts, rfl, found, each, -, -⟩ := load_ok loaded
  obtain ⟨sources, results⟩ := Work.members_of_mapM_ok each
  rw [List.findSome?_isSome_iff]
  constructor
  · rintro ⟨p, member, alone⟩
    obtain ⟨part, there, given⟩ := sources p member
    obtain ⟨body, rfl, none⟩ := (Procedure.alone_iff_of_load given).mp alone
    exact ⟨fields, parts, body, rfl, found, there, none⟩
  · rintro ⟨others, parts', body, same, found', there, none⟩
    cases same
    cases found.symm.trans found'
    obtain ⟨p, member, given⟩ := results _ there
    exact ⟨p, member, (Procedure.alone_iff_of_load given).mpr ⟨body, rfl, none⟩⟩

/-- A rule that was loaded has the id that is in its data. -/
theorem text_error_iff_of_load {strict : Bool} {d : Data} {r : Rule}
    (loaded : load strict d = .ok r) {fault : NumberFault} : r.id.text = .error fault ↔
      fault = .unwritable ∧
        ∃ fields id, d = .map fields ∧ Data.entry? fields "id" = some id ∧ ¬ id.Writable := by
  obtain ⟨fields, parts, rfl, -, -, -, named⟩ := load_ok loaded
  rw [named]
  cases found : Data.entry? fields "id" with
  | none =>
    refine iff_of_false nofun ?_
    rintro ⟨-, _, id, same, present, -⟩
    cases same
    exact nomatch found.symm.trans present
  | some id =>
    refine (Data.toText_written id).error_iff.trans ?_
    rw [and_comm]
    refine and_congr_right fun _ => ⟨fun long => ⟨fields, id, rfl, found, long⟩, ?_⟩
    rintro ⟨_, other, same, present, long⟩
    cases same
    cases found.symm.trans present
    exact long

/-- What a rule has to have for its data to be loaded: what loaded rules have, and a target in every
merge. -/
structure WellFormed (r : Rule) : Prop extends Admitted r where
  targets : ∀ p ∈ r.procedures, p.alone? = none

instance (r : Rule) : Decidable r.WellFormed :=
  decidable_of_iff ((∀ p ∈ r.procedures, ∀ id ∈ p.references, id ∈ r.pattern.ids) ∧
      (∀ p ∈ r.procedures, p.Parses) ∧ ∀ p ∈ r.procedures, p.alone? = none)
    ⟨fun ⟨declared, parses, targets⟩ => ⟨⟨declared, parses⟩, targets⟩,
      fun ⟨⟨declared, parses⟩, targets⟩ => ⟨declared, parses, targets⟩⟩

/-- A rule is saved exactly if its id can be written out, and then it is loaded again as it is, with
this text as its id. -/
theorem saved_loads_back (strict : Bool) {r : Rule} (wellFormed : r.WellFormed) :
    r.toData.map (load strict) =
      r.id.text.map fun id => .ok { r with id := .given (.text id) } := by
  rw [map_load_toData strict wellFormed.toAdmitted,
    List.findSome?_eq_none_iff.mpr wellFormed.targets]
  rfl

/-- A rule with every kind of procedure and of bound. -/
def motley : Rule where
  pattern :=
    { nodes := [⟨4, some "stem", .ofList [("age", .range (.int 2) (.float (.infinite false))),
        ("", .single .lessThan (.float (.zero true)))]⟩, ⟨-1, none, .empty⟩, ⟨0, some "", .empty⟩]
      edges := [(0, 4), (4, 4), (4, 0)]
      distinct := by decide
      declared := by decide }
  procedures := [.merge [-1, 4, -1] 4, .add [4, 0, 4] ⟨"leaf", .ofList [("age", "age + rand(0, 1)"),
    ("size", "1")]⟩, .replace 0 ⟨"", .empty⟩, .delete 4]
  checkValues := true
  symmetryBreaking := false

theorem motley_loads_back : motley.WellFormed ∧
    motley.toData.map (load true) = .ok (.ok { motley with id := .given (.text "<uuid>") }) := by
  have wellFormed : motley.WellFormed := by decide +kernel
  exact ⟨wellFormed, saved_loads_back true wellFormed⟩

/-- How a rule that was loaded from data can be saved and loaded again. -/
structure Reloads (again : Bool) (d : Data) (r : Rule) : Prop where
  /-- Only an id with an integer of too many digits in it keeps the rule from being saved. -/
  unsaved : ∀ fault, r.toData = .error fault ↔ fault = .unwritable ∧
    ∃ fields id, d = .map fields ∧ Data.entry? fields "id" = some id ∧ ¬ id.Writable
  /-- What was saved is loaded again as it is, and saved as the same data, unless a merge has no
  targets: the first of these is refused. -/
  reloaded : ∀ saved, r.toData = .ok saved → ∃ id, r.id.text = .ok id ∧
    (load again saved = match r.procedures.findSome? Procedure.alone? with
      | none => .ok { r with id := .given (.text id) }
      | some survivor =>
        Load.refuse "invalid_procedure" "merge takes at least 2 pattern ids, the survivor first"
          [("value", .list [.int survivor])]) ∧
    Rule.toData { r with id := .given (.text id) } = .ok saved
  /-- Merges without targets come from mappings alone. -/
  alone : (r.procedures.findSome? Procedure.alone?).isSome = true ↔
    ∃ fields parts body, d = .map fields ∧ Load.parts fields "to" = .ok parts ∧
      .map [(.text "merge", .map body)] ∈ parts ∧ Load.parts body "targets" = .ok []

theorem loaded_reloads {strict : Bool} {d : Data} {r : Rule} (loaded : load strict d = .ok r)
    (again : Bool) : r.Reloads again d where
  unsaved fault := toData_error_iff.trans (text_error_iff_of_load loaded)
  alone := alone_iff_of_load loaded
  reloaded saved done := by
    have reload := map_load_toData again (admitted_of_load loaded)
    cases named : r.id.text with
    | error fault => exact nomatch (toData_error_iff.mpr named).symm.trans done
    | ok id =>
      rw [done, named] at reload
      refine ⟨id, rfl, (Except.ok.inj reload).trans ?_, ?_⟩
      · cases r.procedures.findSome? Procedure.alone? <;> rfl
      · rw [← done, toData_of_text named]
        rfl

/-- Data in a loose form. -/
def loose : Data :=
  .map [(.text "id", .int 7), (.text "note", .null),
    (.text "from", .map [(.text "edges", .list [.list [.int 1, .int 0]]),
      (.text "nodes", .list [
        .map [(.text "id", .int 0), (.text "name", .bool true),
          (.text "values", .map [(.null, .list [.text "gte", .text "12"]),
            (.text "None", .list [.text "eq", .float (.infinite true)])])],
        .map [(.text "id", .int 1), (.text "name", .null), (.text "values", .list [])]])]),
    (.text "to", .list [
      .map [(.text "merge", .map [(.text "final_node", .int 1),
        (.text "targets", .list [.int 0, .int 1, .int 0])])],
      .map [(.text "replace", .map [(.text "replace", .map [(.text "name", .list [.bool false]),
        (.text "values", .map [(.null, .float (.zero true))])]), (.text "target", .int 1)])]]),
    (.text "match_values", .text "no")]

/-- The rule of these data, which is given its id as an integer. -/
def tidy : Rule where
  pattern :=
    { nodes := [⟨0, some "True", .ofList [("None", .single .equals (.float (.infinite true)))]⟩,
        ⟨1, none, .empty⟩]
      edges := [(1, 0)]
      distinct := by decide
      declared := by decide }
  procedures := [.merge [0, 1, 0] 1, .replace 1 ⟨"[False]", .ofList [("None", "-0.0")]⟩]
  id := .given (.int 7)
  checkValues := true

theorem loose_reloads : load false loose = .ok tidy ∧ tidy.Reloads true loose := by
  have loaded : load false loose = .ok tidy := by rfl
  exact ⟨loaded, loaded_reloads loaded true⟩

/-- A merge of a node with no others, as a mapping. -/
def loneMerge : Data :=
  .map [(.text "id", .text "alone"),
    (.text "from", .map [(.text "nodes", .list [.map [(.text "id", .int 3)]])]),
    (.text "to", .list [.map [(.text "merge", .map [(.text "final_node", .int 3)])]])]

def lone : Rule where
  pattern :=
    { nodes := [⟨3, none, .empty⟩], edges := [], distinct := by decide, declared := by decide }
  procedures := [.merge [] 3]
  id := .given (.text "alone")

theorem loneMerge_not_reloaded : load true loneMerge = .ok lone ∧
    ∃ saved, lone.toData = .ok saved ∧ ∀ again, load true saved ≠ .ok again := by
  have admitted : lone.Admitted := ⟨by decide, by decide⟩
  refine ⟨by rfl, _, rfl, fun again reloaded => ?_⟩
  have reload := Except.ok.inj (map_load_toData true admitted)
  cases reload.symm.trans reloaded

end Rule

end GrowthGrammar
