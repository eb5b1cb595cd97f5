import GrowthGrammar.Proofs.Rule.Fields

/-!
Strict loading. It goes through the data as lenient loading does, and beyond that refuses mappings
with fields that mean nothing, at every level at which fields have a meaning.
-/
namespace GrowthGrammar

namespace Load

/-- All fields of a mapping are among the named ones. -/
def Only (names : List String) (fields : Fields) : Prop :=
  ∀ field ∈ fields, ∃ name ∈ names, field.1 = .text name

theorem isAmong_iff {names : List String} {key : Data} :
    isAmong names key = true ↔ ∃ name ∈ names, key = .text name := by
  rw [isAmong, List.any_eq_true]
  refine exists_congr fun name => and_congr_right fun _ => ?_
  cases key <;> simp [Data.isText]

variable {α β : Type} {strict lenient : Load α} {known more : Prop}

/-- Strict loading that does what lenient loading does if all fields are known, and gives nothing
otherwise. -/
structure Stricter (strict lenient : Load α) (known : Prop) : Prop where
  same : known → strict = lenient
  known : ∀ a, strict = .ok a → known

theorem Stricter.ok_iff (stricter : Stricter strict lenient known) {a : α} :
    strict = .ok a ↔ lenient = .ok a ∧ known := by
  constructor
  · intro loaded
    have known := stricter.known a loaded
    exact ⟨stricter.same known ▸ loaded, known⟩
  · rintro ⟨loaded, known⟩
    exact (stricter.same known).trans loaded

theorem Stricter.of_iff (stricter : Stricter strict lenient known) (same : known ↔ more) :
    Stricter strict lenient more :=
  ⟨fun holds => stricter.same (same.mpr holds), fun a loaded => same.mp (stricter.known a loaded)⟩

theorem stricter_same (w : Load α) (holds : known) : Stricter w w known :=
  ⟨fun _ => rfl, fun _ _ => holds⟩

theorem stricter_refuse (code message : String) (details : List (String × Data)) :
    Stricter (refuse code message details : Load α) (refuse code message details) known :=
  ⟨fun _ => rfl, nofun⟩

theorem Stricter.bind {f g : α → Load β} (first : Stricter strict lenient known)
    (second : ∀ a, lenient = .ok a → Stricter (f a) (g a) more) :
    Stricter (strict >>= f) (lenient >>= g) (known ∧ more) := by
  constructor
  · rintro ⟨known, more⟩
    rw [first.same known]
    cases lenient with
    | ok a => exact (second a rfl).same more
    | error fault => rfl
  · intro b loaded
    obtain ⟨a, read, loaded⟩ := Work.bind_ok_iff.mp loaded
    obtain ⟨given, known⟩ := first.ok_iff.mp read
    exact ⟨known, (second a given).known b loaded⟩

/-- A step that is the same in both. -/
theorem stricter_bind {w : Load α} {f g : α → Load β}
    (second : ∀ a, w = .ok a → Stricter (f a) (g a) known) :
    Stricter (w >>= f) (w >>= g) known := by
  cases w with
  | ok a => exact second a rfl
  | error fault => exact ⟨fun _ => rfl, nofun⟩

/-- A step that is the same in both, where what is known is about what the step gives. -/
theorem stricter_given {w : Load α} {f g : α → Load β} {known : α → Prop}
    (second : ∀ a, w = .ok a → Stricter (f a) (g a) (known a)) :
    Stricter (w >>= f) (w >>= g) (∀ a, w = .ok a → known a) := by
  refine stricter_bind fun a given => ⟨fun each => ?_, fun b loaded other again => ?_⟩
  · exact (second a given).same (each a given)
  · cases given.symm.trans again
    exact (second a given).known b loaded

theorem Stricter.bind_same (first : Stricter strict lenient known) (f : α → Load β) :
    Stricter (strict >>= f) (lenient >>= f) known := by
  constructor
  · intro known
    rw [first.same known]
  · intro b loaded
    obtain ⟨a, read, -⟩ := Work.bind_ok_iff.mp loaded
    exact first.known a read

theorem stricter_mapM {f g : β → Load α} {items : List β} {known : β → Prop}
    (each : ∀ b ∈ items, Stricter (f b) (g b) (known b)) :
    Stricter (items.mapM f) (items.mapM g) (∀ b ∈ items, known b) := by
  constructor
  · intro all
    induction items with
    | nil => rfl
    | cons b rest ih =>
      obtain ⟨first, others⟩ := List.forall_mem_cons.mp each
      obtain ⟨this, later⟩ := List.forall_mem_cons.mp all
      rw [List.mapM_cons, List.mapM_cons, first.same this, ih others later]
  · intro results loaded b member
    obtain ⟨a, -, read⟩ := (Work.members_of_mapM_ok loaded).2 b member
    exact (each b member).known a read

theorem checkFields_stricter (fields : Fields) (names : List String) (what : String) :
    Stricter (checkFields true fields names what) (checkFields false fields names what)
      (Only names fields) := by
  constructor
  · intro only
    have known : ∀ field ∈ fields, isAmong names field.1 = true :=
      fun field member => isAmong_iff.mpr (only field member)
    rw [checkFields_ok known, checkFields_ok known]
  · intro _ passed field member
    exact isAmong_iff.mp (known_of_checkFields passed field member)

theorem stricter_mapping (known : Data → Prop) {what : String} {d : Data} {f g : Fields → Load α}
    (each : ∀ fields, d = .map fields → Stricter (f fields) (g fields) (known (.map fields))) :
    Stricter (mapping what d >>= f) (mapping what d >>= g) (known d) := by
  refine stricter_bind fun fields given => ?_
  obtain rfl := eq_map_of_mapping given
  exact each fields rfl

end Load

open Load

/-! ### Templates and patterns -/

namespace Template

/-- All fields of a template are known. -/
def Known : Data → Prop
  | .map fields => Only ["name", "values"] fields
  | _ => True

theorem load_stricter (d : Data) : Stricter (load true d) (load false d) (Known d) := by
  refine stricter_mapping Known fun fields _ => ?_
  exact (checkFields_stricter fields ["name", "values"] "node template").bind_same _

end Template

namespace PatternNode

def Known : Data → Prop
  | .map fields => Only ["id", "name", "values"] fields
  | _ => True

theorem load_stricter (d : Data) : Stricter (load true d) (load false d) (Known d) := by
  refine stricter_mapping Known fun fields _ => ?_
  exact (checkFields_stricter fields ["id", "name", "values"] "pattern node").bind_same _

end PatternNode

namespace Pattern

/-- All fields of a pattern and of its nodes are known. -/
def Known : Data → Prop
  | .map fields => Only ["nodes", "edges"] fields ∧
      ∀ nodes, parts fields "nodes" = .ok nodes → ∀ node ∈ nodes, PatternNode.Known node
  | _ => True

theorem load_stricter (d : Data) : Stricter (load true d) (load false d) (Known d) := by
  refine stricter_mapping Known fun fields _ => ?_
  refine (checkFields_stricter fields ["nodes", "edges"] "pattern").bind fun _ _ => ?_
  refine stricter_bind fun pairs _ => stricter_bind fun edges _ => ?_
  refine stricter_given fun nodes _ => ?_
  exact (stricter_mapM fun node _ => PatternNode.load_stricter node).bind_same _

end Pattern

/-! ### Procedures -/

namespace Procedure

/-- The template that a node is replaced with. -/
def replacement? (fields : Fields) : Option Data :=
  (Data.entry? fields "with").orElse fun _ => Data.entry? fields "replace"

/-- All fields of a procedure are known, and so are those of the template in it. -/
def Known : Data → Prop
  | .map [(.text (.plain "replace"), .map fields)] => Only ["target", "with", "replace"] fields ∧
      ∀ template, replacement? fields = some template → Template.Known template
  | .map [(.text (.plain "add"), .map fields)] => Only ["neighbors", "node"] fields ∧
      ∀ template, Data.entry? fields "node" = some template → Template.Known template
  | .map [(.text (.plain "merge"), .map fields)] => Only ["targets", "final_node"] fields
  | _ => True

theorem loadReplace_stricter (d : Data) :
    Stricter (loadReplace true d) (loadReplace false d) (Known (.map [(.text "replace", d)])) := by
  refine stricter_mapping (fun d => Known (.map [(.text "replace", d)])) fun fields _ => ?_
  refine (checkFields_stricter fields ["target", "with", "replace"] "replace").bind fun _ _ => ?_
  extract_lets given template
  split
  · rename_i present
    -- A template that is missing is read as null, which is refused before it is loaded.
    have same : template = (replacement? fields).getD .null := rfl
    have chosen : replacement? fields = some template := by
      cases found : replacement? fields with
      | some d => rw [same, found, Option.getD_some]
      | none =>
        rw [same, found] at present
        cases present
    refine stricter_bind fun target _ => ?_
    refine Stricter.of_iff ((Template.load_stricter template).bind_same _) ?_
    rw [chosen]
    simp
  · exact stricter_refuse _ _ _

theorem loadAdd_stricter (d : Data) :
    Stricter (loadAdd true d) (loadAdd false d) (Known (.map [(.text "add", d)])) := by
  refine stricter_mapping (fun d => Known (.map [(.text "add", d)])) fun fields _ => ?_
  refine (checkFields_stricter fields ["neighbors", "node"] "add").bind fun _ _ => ?_
  split
  · exact stricter_refuse _ _ _
  · rename_i node found
    refine stricter_bind fun parts _ => stricter_bind fun neighbors _ => ?_
    refine Stricter.of_iff ((Template.load_stricter node).bind_same _) ?_
    rw [found]
    simp

theorem loadMerge_stricter (d : Data) :
    Stricter (loadMerge true d) (loadMerge false d) (Known (.map [(.text "merge", d)])) := by
  unfold loadMerge
  split
  · exact (checkFields_stricter _ ["targets", "final_node"] "merge").bind_same _
  · exact stricter_same _ trivial
  · exact stricter_refuse _ _ _

theorem load_stricter (d : Data) : Stricter (load true d) (load false d) (Known d) := by
  unfold load
  split
  · split
    · exact stricter_same _ trivial
    · exact loadReplace_stricter _
    · exact loadAdd_stricter _
    · exact loadMerge_stricter _
    · exact stricter_bind fun _ _ => stricter_refuse _ _ _
  · exact stricter_refuse _ _ _

end Procedure

/-! ### Rules -/

namespace Rule

/-- All fields of a rule are known, at every level. -/
def Known : Data → Prop
  | .map fields => Only ["id", "from", "to", "match_values", "symmetry_breaking"] fields ∧
      (∀ pattern, Data.entry? fields "from" = some pattern → Pattern.Known pattern) ∧
      ∀ procedures, parts fields "to" = .ok procedures → ∀ p ∈ procedures, Procedure.Known p
  | _ => True

theorem load_stricter (d : Data) : Stricter (load true d) (load false d) (Known d) := by
  refine stricter_mapping Known fun fields _ => ?_
  refine (checkFields_stricter fields ["id", "from", "to", "match_values", "symmetry_breaking"]
    "rule").bind fun _ _ => ?_
  split
  · exact stricter_refuse _ _ _
  · rename_i pattern found
    have known : Pattern.Known pattern ↔
        ∀ given, Data.entry? fields "from" = some given → Pattern.Known given := by
      rw [found]
      simp
    refine ((Pattern.load_stricter pattern).of_iff known).bind fun p _ => ?_
    refine stricter_given fun items _ => ?_
    exact (stricter_mapM fun item _ => Procedure.load_stricter item).bind_same _

/-- Strict loading gives what lenient loading gives, but only where all fields are known. -/
theorem load_strict_iff {d : Data} {r : Rule} :
    load true d = .ok r ↔ load false d = .ok r ∧ Known d :=
  (load_stricter d).ok_iff

/-- Strict loading of several rules asks the same of each of them. -/
theorem loadAll_stricter (items : List Data) :
    Stricter (loadAll true (.list items)) (loadAll false (.list items)) (∀ d ∈ items, Known d) :=
  stricter_mapM fun d _ => load_stricter d

end Rule

end GrowthGrammar
