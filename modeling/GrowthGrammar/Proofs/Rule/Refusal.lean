import GrowthGrammar.Proofs.Rule.Wording
import GrowthGrammar.Proofs.Sorting

/-!
Refusals: data that cannot be loaded are refused with a report, as long as the loading can look at
them in the first place. It cannot where a field for several parts holds a number, where a list or
mapping stands for the kind of a condition, where unknown fields have to be put in an order that they
do not have, and where a formula is no text that can be read. Nor can it where it has to write out an
integer of too many digits, for a name, a key or a formula or in the message of a report.
-/
namespace GrowthGrammar

namespace Load

variable {α β : Type} {w : Load α} {f : α → Load β}

/-- Loading that gives what it is to give, or a report of why it does not. -/
def Answers (w : Load α) : Prop := ∀ fault, w = .error fault → fault.report?.isSome = true

theorem answers_ok (a : α) : Answers (.ok a) := nofun

theorem answers_refuse (code message : String) (details : List (String × Data)) :
    Answers (refuse code message details : Load α) := by
  rintro fault same
  cases same
  rfl

theorem Answers.bind (first : Answers w) (second : ∀ a, w = .ok a → Answers (f a)) :
    Answers (w >>= f) := by
  intro fault failed
  rcases Work.of_bind_error failed with failed | ⟨a, done, failed⟩
  · exact first fault failed
  · exact second a done fault failed

/-- What is written out has an answer exactly if no integer in it is too long. -/
theorem answers_mapError_iff {p : Prop} {w : Except NumberFault α} (written : WrittenIff p w) :
    Answers (w.mapError .number) ↔ p := by
  rcases written with ⟨holds, a, rfl⟩ | ⟨fails, rfl⟩
  · exact iff_of_true (answers_ok a) holds
  · refine iff_of_false (fun answers => ?_) fails
    cases answers (.number .unwritable) rfl

theorem text_answers_iff {d : Data} : Answers (text d) ↔ d.Writable :=
  answers_mapError_iff (Data.toText_written d)

theorem shown_answers_iff {d : Data} : Answers (shown d) ↔ d.Writable :=
  answers_mapError_iff (Data.literal_written d)

theorem answers_mapM {g : β → Load α} {items : List β} (each : ∀ b ∈ items, Answers (g b)) :
    Answers (items.mapM g) := by
  induction items with
  | nil => exact answers_ok []
  | cons b rest ih =>
    rw [List.mapM_cons]
    refine (each b List.mem_cons_self).bind fun a _ => ?_
    refine Answers.bind (ih fun c member => each c (List.mem_cons_of_mem _ member)) ?_
    exact fun _ _ => answers_ok _

theorem answers_forM {g : β → Load PUnit} {items : List β} (each : ∀ b ∈ items, Answers (g b)) :
    Answers (items.forM g) := by
  intro fault failed
  obtain ⟨b, member, failed⟩ := Work.of_forM_error failed
  exact each b member fault failed

/-! ### Fields -/

theorem mapping_answers (what : String) (d : Data) : Answers (mapping what d) := by
  cases d with
  | map fields => exact answers_ok fields
  | _ => exact answers_refuse _ _ _

theorem patternId_answers (what : String) (d : Data) : Answers (patternId what d) := by
  cases d with
  | int n => exact answers_ok n
  | _ => exact answers_refuse _ _ _

theorem inner_answers (fields : Fields) (name : String) : Answers (inner fields name) := by
  unfold inner
  split
  · exact answers_ok []
  · split
    · exact mapping_answers "node" _
    · exact answers_ok []

/-- A field for several parts is missing, counts as empty, or has parts. -/
def HasParts (fields : Fields) (name : String) : Prop :=
  ∀ d, Data.entry? fields name = some d → d.isTruthy = true → d.parts?.isSome = true

theorem parts_answers_iff {fields : Fields} {name : String} :
    Answers (parts fields name) ↔ HasParts fields name := by
  unfold parts HasParts
  cases Data.entry? fields name with
  | none => exact iff_of_true (answers_ok []) nofun
  | some d =>
    dsimp only
    cases truthy : d.isTruthy with
    | false =>
      refine iff_of_true (answers_ok []) ?_
      rintro other ⟨⟩ present
      exact Bool.noConfusion (truthy.symm.trans present)
    | true =>
      cases several : d.parts? with
      | some items =>
        refine iff_of_true (answers_ok items) ?_
        rintro other ⟨⟩ -
        rw [several]
        rfl
      | none =>
        refine iff_of_false (fun answers => ?_) fun readable => ?_
        · cases answers (.noParts d.typeName) rfl
        · have there := readable d rfl truthy
          rw [several] at there
          cases there

/-- The keys of a mapping that are none of the allowed ones. -/
def unknown (allowed : List String) (fields : Fields) : List Data :=
  (fields.map (·.1)).filter fun key => !isAmong allowed key

/-- Unknown fields can be put in an order: there is one at most, or all their keys are strings, or
all of them are numbers. -/
def Sortable (allowed : List String) (fields : Fields) : Prop :=
  (unknown allowed fields).length ≤ 1 ∨ (∀ key ∈ unknown allowed fields, ∃ s, key = .text s) ∨
    ∀ key ∈ unknown allowed fields, key.toExtended?.isSome = true

/-- Unknown fields can be put in an order and written out for a report. -/
structure Listable (allowed : List String) (fields : Fields) : Prop where
  sortable : Sortable allowed fields
  writable : ∀ key ∈ unknown allowed fields, key.Writable

theorem listable_of_known {allowed : List String} {fields : Fields}
    (known : ∀ field ∈ fields, isAmong allowed field.1 = true) : Listable allowed fields := by
  have none : unknown allowed fields = [] := by
    rw [unknown, List.filter_eq_nil_iff, List.forall_mem_map]
    simpa only [Bool.not_eq_true', Bool.not_eq_false] using known
  refine ⟨.inl ?_, ?_⟩ <;> rw [none]
  · exact Nat.zero_le 1
  · exact fun _ member => absurd member List.not_mem_nil

theorem before_ok_of_texts (s t : Spelling) :
    ∃ answer, before (.text s) (.text t) = .ok answer := ⟨_, rfl⟩

theorem before_ok_of_numbers {x y : Data} (first : x.toExtended?.isSome = true)
    (second : y.toExtended?.isSome = true) : ∃ answer, before x y = .ok answer := by
  obtain ⟨m, left⟩ := Option.isSome_iff_exists.mp first
  obtain ⟨n, right⟩ := Option.isSome_iff_exists.mp second
  have compared : x.before? y = some (m.lt n) := by
    unfold Data.before?
    split
    · cases left
    · rw [left, right]
      rfl
  exact ⟨m.lt n, by rw [before, compared]⟩

theorem runSort_before_ok {allowed : List String} {fields : Fields}
    (sortable : Sortable allowed fields) {extras : List Data}
    (among : extras.Perm (unknown allowed fields)) :
    ∃ sorted, runSort before extras = .ok sorted ∧ ∀ key ∈ sorted, key ∈ extras := by
  rcases sortable with few | texts | numbers
  · have length := among.length_eq.trans_le few
    match extras with
    | [] => exact runSort_ok fun _ member => absurd member List.not_mem_nil
    | [key] => exact ⟨_, runSort_singleton before key, fun _ member => member⟩
    | _ :: _ :: _ => exact absurd length (by simp)
  · refine runSort_ok fun x first y second => ?_
    obtain ⟨s, rfl⟩ := texts x (among.subset first)
    obtain ⟨t, rfl⟩ := texts y (among.subset second)
    exact before_ok_of_texts s t
  · refine runSort_ok fun x first y second => ?_
    exact before_ok_of_numbers (numbers x (among.subset first)) (numbers y (among.subset second))

theorem checkFields_answers {strict : Bool} {fields : Fields} {allowed : List String}
    (listable : strict = true → Listable allowed fields) (what : String) :
    Answers (checkFields strict fields allowed what) := by
  unfold checkFields
  cases strict with
  | false => exact answers_ok ()
  | true =>
    dsimp only
    rw [if_pos rfl]
    split
    · obtain ⟨size, extras⟩ := extras_hold allowed fields
      obtain ⟨sorted, done, among⟩ := runSort_before_ok (listable rfl).sortable extras.members
      rw [done]
      have writable : (Data.list sorted).Writable := Data.writable_list.mpr fun key member =>
        (listable rfl).writable key (extras.members.subset (among key member))
      exact (shown_answers_iff.mpr writable).bind fun _ _ => answers_refuse _ _ _
    · exact answers_ok ()

end Load

open Load

/-! ### Scalars and conditions -/

theorem Scalar.load_answers (d : Data) : Answers (load d) := by
  unfold load
  dsimp only
  split
  · exact answers_ok _
  · exact answers_refuse _ _ _
  · split
    · exact answers_ok _
    · exact answers_refuse _ _ _
  · split
    · exact answers_ok _
    · exact answers_refuse _ _ _
  · split
    · exact answers_ok _
    · exact answers_refuse _ _ _
  · exact answers_refuse _ _ _

namespace Condition

theorem unknown_answers_iff {word : Data} {f : String → Load ConditionKind}
    (refused : ∀ shown, Answers (f shown)) :
    Answers (Load.shown word >>= f) ↔ word.Writable := by
  constructor
  · intro answers
    refine shown_answers_iff.mp fun fault failed => answers fault ?_
    rw [failed]
    rfl
  · exact fun writable => (shown_answers_iff.mpr writable).bind fun shown _ => refused shown

theorem loadKind_answers_iff {word : Data} :
    Answers (loadKind word) ↔ word.isKey = true ∧ word.Writable := by
  unfold loadKind
  dsimp only
  split
  · rename_i s
    refine iff_of_true ?_ ⟨rfl, Data.writable_text s⟩
    split
    · exact answers_ok _
    · exact (shown_answers_iff.mpr (Data.writable_text s)).bind fun _ _ => answers_refuse _ _ _
  · cases key : word.isKey with
    | true =>
      rw [if_pos rfl, and_iff_right rfl]
      exact unknown_answers_iff fun _ => answers_refuse _ _ _
    | false =>
      refine iff_of_false (fun answers => ?_) fun readable => Bool.false_ne_true readable.1
      cases answers (.noKey word.typeName) rfl

/-- The word of a condition can be looked up and written out. -/
def Readable (d : Data) : Prop :=
  ∀ word bounds, d = .list (word :: bounds) → word.isKey = true ∧ word.Writable

theorem load_answers_iff {d : Data} : Answers (load d) ↔ Readable d := by
  unfold load
  split
  · rename_i word bounds
    constructor
    · rintro answers other others same
      cases same
      refine loadKind_answers_iff.mp fun fault failed => answers fault ?_
      rw [failed]
      rfl
    · intro readable
      refine (loadKind_answers_iff.mpr (readable word bounds rfl)).bind fun kind _ => ?_
      split
      · exact (Scalar.load_answers _).bind fun _ _ => answers_ok _
      · refine (Scalar.load_answers _).bind fun _ _ => ?_
        exact (Scalar.load_answers _).bind fun _ _ => answers_ok _
      · refine (shown_answers_iff.mpr (readable word bounds rfl).2).bind fun _ _ => ?_
        exact answers_refuse _ _ _
  · rename_i other
    exact iff_of_true (answers_refuse _ _ _) fun word bounds same => absurd same (other word bounds)

end Condition

/-! ### Templates -/

/-- A text that is not refused by what takes texts apart: it has an encoding, holds no null
character, and none of its names stands for a constant in its normal form. -/
def Formula.Legible (text : Spelling) : Prop :=
  ∃ source, text.trim.encode = .ok source ∧ '\x00' ∉ source.toList ∧
    ∀ t formula, Tree.ofText? source = some t → t.compile = .ok formula →
      ∀ name ∈ formula.names, name ∉ constantNames

theorem Formula.legible_iff {text : Spelling} :
    Legible text ↔ ∀ fault, parse text = .error fault → fault.report?.isSome = true := by
  unfold Legible parse
  cases text.trim.encode with
  | error lone =>
    refine iff_of_false nofun fun answers => ?_
    cases answers (.unencodable lone) rfl
  | ok source =>
    simp only [Except.ok.injEq, exists_eq_left']
    by_cases null : '\x00' ∈ source.toList
    · rw [if_pos (List.contains_iff_mem.mpr null)]
      refine iff_of_false (fun legible => legible.1 null) fun answers => ?_
      cases answers .nullCharacter rfl
    · rw [if_neg (mt List.contains_iff_mem.mp null), and_iff_right null]
      cases Tree.ofText? source with
      | none =>
        refine iff_of_true (fun _ _ read => by cases read) ?_
        rintro fault ⟨⟩
        rfl
      | some t =>
        dsimp only
        cases compiled : t.compile with
        | error fault =>
          refine iff_of_true ?_ ?_
          · rintro other formula ⟨⟩ done
            cases compiled.symm.trans done
          · rintro fault ⟨⟩
            rfl
        | ok formula =>
          dsimp only
          cases found : formula.names.find? constantNames.contains with
          | none =>
            refine iff_of_true ?_ (fun _ failed => by cases failed)
            rintro other formula' ⟨⟩ done name member constant
            cases compiled.symm.trans done
            exact List.find?_eq_none.mp found name member (List.contains_iff_mem.mpr constant)
          | some word =>
            refine iff_of_false (fun legible => ?_) fun answers => ?_
            · have constant := List.find?_some found
              exact legible t formula rfl compiled word (List.mem_of_find?_eq_some found)
                (List.contains_iff_mem.mp constant)
            · cases answers (.constantName word) rfl

namespace Template

theorem validate_answers {t : Template}
    (legible : ∀ text ∈ t.formulas.values, Formula.Legible text) :
    Answers (t.validate.mapError .formula) := by
  intro fault failed
  cases valid : t.validate with
  | ok _ =>
    rw [valid] at failed
    cases failed
  | error other =>
    rw [valid] at failed
    cases failed
    obtain ⟨text, member, failed⟩ := Work.of_forM_error valid
    rcases Work.of_bind_error failed with failed | ⟨_, _, failed⟩
    · exact Formula.legible_iff.mp (legible text member) other failed
    · cases failed

theorem ofEntries_written (name : Data) (entries : Fields) :
    WrittenIff (name.Writable ∧ ∀ e ∈ entries, e.1.Writable ∧ e.2.Writable)
      (ofEntries name entries) := by
  refine (Data.toText_written name).bind fun _ => WrittenIff.map (WrittenIff.mapM (fun e => ?_) _)
  exact (Data.toText_written e.1).bind fun _ => (Data.toText_written e.2).map

/-- The formulas of a template that was made of data are those of the entries. -/
theorem formulas_of_ofEntries {name : Data} {entries : Fields} {t : Template}
    (made : ofEntries name entries = .ok t) :
    ∀ text ∈ t.formulas.values, ∃ e ∈ entries, e.2.toText = .ok text := by
  obtain ⟨given, _, made⟩ := Work.bind_ok_iff.mp made
  obtain ⟨texts, each, made⟩ := Work.bind_ok_iff.mp made
  cases made
  intro text member
  obtain ⟨pair, there, rfl⟩ := List.mem_map.mp member
  obtain ⟨e, among, written⟩ :=
    (Work.members_of_mapM_ok each).1 pair (Catalog.mem_of_mem_ofList there)
  obtain ⟨key, _, written⟩ := Work.bind_ok_iff.mp written
  obtain ⟨formula, given, written⟩ := Work.bind_ok_iff.mp written
  cases written
  exact ⟨e, among, given⟩

/-- The fields of a template can be read or reported. -/
structure ReadableFields (strict : Bool) (fields : Fields) : Prop where
  listable : strict = true → Listable ["name", "values"] fields
  name : ∀ name, Data.entry? fields "name" = some name → name.Writable
  keys : ∀ values, inner fields "values" = .ok values → ∀ field ∈ values, field.1.Writable
  formulas : ∀ values, inner fields "values" = .ok values → ∀ field ∈ values,
    ∃ text, field.2.toText = .ok text ∧ Formula.Legible text

def Readable (strict : Bool) (d : Data) : Prop :=
  ∀ fields, d = .map fields → ReadableFields strict fields

theorem load_answers {strict : Bool} {d : Data} (readable : Readable strict d) :
    Answers (load strict d) := by
  refine (mapping_answers "node" d).bind fun fields given => ?_
  have readable := readable fields (eq_map_of_mapping given)
  refine (checkFields_answers readable.listable _).bind fun _ _ => ?_
  split
  · exact answers_refuse _ _ _
  · rename_i name present
    refine (inner_answers _ _).bind fun values found => ?_
    have writable : ∀ field ∈ values, field.1.Writable ∧ field.2.Writable := by
      intro field among
      obtain ⟨text, written, -⟩ := readable.formulas values found field among
      exact ⟨readable.keys values found field among,
        (Data.toText_written _).ok_iff.mp ⟨text, written⟩⟩
    refine Answers.bind ((answers_mapError_iff (ofEntries_written name values)).mpr
      ⟨readable.name name present, writable⟩) fun t made => ?_
    refine (validate_answers fun text member => ?_).bind fun _ _ => answers_ok _
    obtain ⟨field, among, written⟩ := formulas_of_ofEntries (Work.mapError_ok_iff.mp made) text member
    obtain ⟨other, same, legible⟩ := readable.formulas values found field among
    cases written.symm.trans same
    exact legible

end Template

/-! ### Patterns and procedures -/

namespace PatternNode

structure ReadableFields (strict : Bool) (fields : Fields) : Prop where
  listable : strict = true → Listable ["id", "name", "values"] fields
  name : ∀ name, Data.entry? fields "name" = some name → name.Writable
  keys : ∀ values, inner fields "values" = .ok values → ∀ field ∈ values, field.1.Writable
  conditions : ∀ values, inner fields "values" = .ok values → ∀ field ∈ values,
    Condition.Readable field.2

def Readable (strict : Bool) (d : Data) : Prop :=
  ∀ fields, d = .map fields → ReadableFields strict fields

theorem loadName?_answers {d? : Option Data} (writable : ∀ d, d? = some d → d.Writable) :
    Answers (loadName? d?) := by
  unfold loadName?
  split
  · exact answers_ok none
  · exact answers_ok none
  · exact (text_answers_iff.mpr (writable _ rfl)).bind fun _ _ => answers_ok _

theorem load_answers {strict : Bool} {d : Data} (readable : Readable strict d) :
    Answers (load strict d) := by
  refine (mapping_answers "node" d).bind fun fields given => ?_
  have readable := readable fields (eq_map_of_mapping given)
  refine (checkFields_answers readable.listable _).bind fun _ _ => ?_
  split
  · exact answers_refuse _ _ _
  · refine (inner_answers _ _).bind fun values found => ?_
    refine (patternId_answers _ _).bind fun id _ => ?_
    refine (loadName?_answers readable.name).bind fun name? _ => ?_
    refine Answers.bind (answers_mapM fun field member => ?_) fun _ _ => answers_ok _
    refine (text_answers_iff.mpr (readable.keys values found field member)).bind fun _ _ => ?_
    refine (Condition.load_answers_iff.mpr (readable.conditions values found field member)).bind ?_
    exact fun _ _ => answers_ok _

end PatternNode

/-- The id that a fault of a pattern is about. -/
def PatternFault.id : PatternFault → Int
  | .duplicate id => id
  | .undeclared _ id => id

theorem PatternFault.report_written (fault : PatternFault) :
    WrittenIff (Numeral.IsShort fault.id) fault.report := by
  cases fault <;> exact (Numeral.write_written _).map

namespace Pattern

structure ReadableFields (strict : Bool) (fields : Fields) : Prop where
  listable : strict = true → Listable ["nodes", "edges"] fields
  edges : HasParts fields "edges"
  nodes : HasParts fields "nodes"
  each : ∀ items, parts fields "nodes" = .ok items → ∀ item ∈ items,
    PatternNode.Readable strict item
  /-- An id that is declared twice or not at all is short enough for the report of it. -/
  ids : ∀ pairs items, parts fields "edges" = .ok pairs → parts fields "nodes" = .ok items →
    ∀ edges nodes, pairs.mapM loadEdge = .ok edges →
      items.mapM (PatternNode.load strict) = .ok nodes →
      ∀ fault, ofParts? nodes edges = .error fault → Numeral.IsShort fault.id

def Readable (strict : Bool) (d : Data) : Prop :=
  ∀ fields, d = .map fields → ReadableFields strict fields

theorem loadEdge_answers (d : Data) : Answers (loadEdge d) := by
  unfold loadEdge
  split
  · refine (patternId_answers _ _).bind fun _ _ => ?_
    exact (patternId_answers _ _).bind fun _ _ => answers_ok _
  · exact answers_refuse _ _ _

theorem load_answers {strict : Bool} {d : Data} (readable : Readable strict d) :
    Answers (load strict d) := by
  refine (mapping_answers "pattern" d).bind fun fields given => ?_
  have readable := readable fields (eq_map_of_mapping given)
  refine (checkFields_answers readable.listable _).bind fun _ _ => ?_
  refine (parts_answers_iff.mpr readable.edges).bind fun pairs foundEdges => ?_
  refine (answers_mapM fun pair _ => loadEdge_answers pair).bind fun edges eachEdge => ?_
  refine (parts_answers_iff.mpr readable.nodes).bind fun items foundNodes => ?_
  refine Answers.bind (answers_mapM fun item member =>
    PatternNode.load_answers (readable.each items foundNodes item member)) fun nodes eachNode => ?_
  cases made : ofParts? nodes edges with
  | ok p => exact answers_ok p
  | error fault =>
    have short := readable.ids pairs items foundEdges foundNodes edges nodes eachEdge eachNode
      fault made
    refine ((answers_mapError_iff fault.report_written).mpr short).bind fun report _ => ?_
    intro other same
    cases same
    rfl

end Pattern

namespace Procedure

structure ReadableReplace (strict : Bool) (fields : Fields) : Prop where
  listable : strict = true → Listable ["target", "with", "replace"] fields
  template : ∀ template,
    (Data.entry? fields "with" <|> Data.entry? fields "replace") = some template →
      Template.Readable strict template

structure ReadableAdd (strict : Bool) (fields : Fields) : Prop where
  listable : strict = true → Listable ["neighbors", "node"] fields
  neighbors : HasParts fields "neighbors"
  template : ∀ template, Data.entry? fields "node" = some template →
    Template.Readable strict template

structure ReadableMerge (strict : Bool) (fields : Fields) : Prop where
  listable : strict = true → Listable ["targets", "final_node"] fields
  targets : HasParts fields "targets"

/-- The kind of a procedure can be written out, and its fields can be read or reported. -/
structure ReadableBody (strict : Bool) (kind body : Data) : Prop where
  writable : kind.Writable
  replace : ∀ fields, kind = .text (.plain "replace") → body = .map fields →
    ReadableReplace strict fields
  add : ∀ fields, kind = .text (.plain "add") → body = .map fields → ReadableAdd strict fields
  merge : ∀ fields, kind = .text (.plain "merge") → body = .map fields →
    ReadableMerge strict fields

def Readable (strict : Bool) (d : Data) : Prop :=
  ∀ kind body, d = .map [(kind, body)] → ReadableBody strict kind body

variable {strict : Bool} {d : Data}

theorem loadReplace_answers
    (readable : ∀ fields, d = .map fields → ReadableReplace strict fields) :
    Answers (loadReplace strict d) := by
  refine (mapping_answers "procedure" d).bind fun fields given => ?_
  have readable := readable fields (eq_map_of_mapping given)
  refine (checkFields_answers readable.listable _).bind fun _ _ => ?_
  dsimp only
  split
  · rename_i present
    refine (patternId_answers _ _).bind fun _ _ => ?_
    refine (Template.load_answers ?_).bind fun _ _ => answers_ok _
    cases found : (Data.entry? fields "with").orElse fun _ => Data.entry? fields "replace" with
    | none =>
      rw [found] at present
      cases present
    | some template => exact readable.template template found
  · exact answers_refuse _ _ _

theorem loadAdd_answers (readable : ∀ fields, d = .map fields → ReadableAdd strict fields) :
    Answers (loadAdd strict d) := by
  refine (mapping_answers "procedure" d).bind fun fields given => ?_
  have readable := readable fields (eq_map_of_mapping given)
  refine (checkFields_answers readable.listable _).bind fun _ _ => ?_
  split
  · exact answers_refuse _ _ _
  · rename_i node found
    refine (parts_answers_iff.mpr readable.neighbors).bind fun items _ => ?_
    refine (answers_mapM fun item _ => patternId_answers _ item).bind fun _ _ => ?_
    exact (Template.load_answers (readable.template node found)).bind fun _ _ => answers_ok _

theorem loadMerge_answers (readable : ∀ fields, d = .map fields → ReadableMerge strict fields) :
    Answers (loadMerge strict d) := by
  unfold loadMerge
  split
  · rename_i fields
    have readable := readable fields rfl
    refine (checkFields_answers readable.listable _).bind fun _ _ => ?_
    refine (patternId_answers _ _).bind fun _ _ => ?_
    refine (parts_answers_iff.mpr readable.targets).bind fun items _ => ?_
    exact (answers_mapM fun item _ => patternId_answers _ item).bind fun _ _ => answers_ok _
  · refine (patternId_answers _ _).bind fun _ _ => ?_
    exact (answers_mapM fun item _ => patternId_answers _ item).bind fun _ _ => answers_ok _
  · exact answers_refuse _ _ _

theorem load_answers (readable : Readable strict d) : Answers (load strict d) := by
  unfold load
  split
  · have readable := readable _ _ rfl
    split
    · exact (patternId_answers _ _).bind fun _ _ => answers_ok _
    · exact loadReplace_answers fun fields => readable.replace fields rfl
    · exact loadAdd_answers fun fields => readable.add fields rfl
    · exact loadMerge_answers fun fields => readable.merge fields rfl
    · exact (shown_answers_iff.mpr readable.writable).bind fun _ _ => answers_refuse _ _ _
  · exact answers_refuse _ _ _

end Procedure

/-! ### Rules -/

namespace Rule

structure ReadableFields (strict : Bool) (fields : Fields) : Prop where
  listable : strict = true →
    Listable ["id", "from", "to", "match_values", "symmetry_breaking"] fields
  procedures : HasParts fields "to"
  pattern : ∀ pattern, Data.entry? fields "from" = some pattern → Pattern.Readable strict pattern
  each : ∀ items, parts fields "to" = .ok items → ∀ item ∈ items, Procedure.Readable strict item
  /-- An id that a procedure names and the pattern lacks is short enough for the report of it. -/
  references : ∀ pattern items, Data.entry? fields "from" = some pattern →
    parts fields "to" = .ok items → ∀ p procedures, Pattern.load strict pattern = .ok p →
      items.mapM (Procedure.load strict) = .ok procedures →
      ∀ q ∈ procedures, ∀ id ∈ q.references, id ∉ p.ids → Numeral.IsShort id

/-- Loading can look at all that a rule consists of. -/
def Readable (strict : Bool) (d : Data) : Prop :=
  ∀ fields, d = .map fields → ReadableFields strict fields

variable {strict : Bool} {d : Data}

theorem checkReferences_answers {pattern : Pattern} {procedures : List Procedure}
    (short : ∀ p ∈ procedures, ∀ id ∈ p.references, id ∉ pattern.ids → Numeral.IsShort id) :
    Answers (checkReferences pattern procedures) := by
  refine answers_forM fun p member => answers_forM fun id named => ?_
  split
  · exact answers_ok ()
  · rename_i absent
    refine Answers.bind (shown_answers_iff.mpr ?_) fun _ _ => answers_refuse _ _ _
    exact Data.writable_int.mpr (short p member id named absent)

theorem load_answers (readable : Readable strict d) : Answers (load strict d) := by
  refine (mapping_answers "rule" d).bind fun fields given => ?_
  have readable := readable fields (eq_map_of_mapping given)
  refine (checkFields_answers readable.listable _).bind fun _ _ => ?_
  split
  · exact answers_refuse _ _ _
  · rename_i pattern found
    refine (Pattern.load_answers (readable.pattern pattern found)).bind fun p loaded => ?_
    refine (parts_answers_iff.mpr readable.procedures).bind fun items given => ?_
    refine Answers.bind (answers_mapM fun item member =>
      Procedure.load_answers (readable.each items given item member)) fun procedures each => ?_
    have short := readable.references pattern items found given p procedures loaded each
    exact (checkReferences_answers short).bind fun _ _ => answers_ok _

/-- Rules are loaded or refused with a report, strictly or not, if they can be looked at. -/
theorem loadAll_answers
    (readable : ∀ items, d = .list items → ∀ item ∈ items, Readable strict item) :
    (∃ rules, loadAll strict d = .ok rules) ∨
      ∃ fault report, loadAll strict d = .error fault ∧ fault.report? = some report := by
  have answers : Answers (loadAll strict d) := by
    unfold loadAll
    split
    · rename_i items
      exact answers_mapM fun item member => load_answers (readable items rfl item member)
    · exact answers_refuse _ _ _
  cases answer : loadAll strict d with
  | ok rules => exact .inl ⟨rules, rfl⟩
  | error fault =>
    obtain ⟨report, known⟩ := Option.isSome_iff_exists.mp (answers fault answer)
    exact .inr ⟨fault, report, rfl, known⟩

/-- A rule whose pattern has these data for its edges. -/
def withEdges (edges : Data) : Data :=
  .map [(.text "from", .map [(.text "edges", edges)]), (.text "to", .list [])]

/-- A string has its characters for parts, none of which is an edge. -/
theorem withEdges_text_refused :
    (∀ item ∈ [withEdges (.text "01")], Readable true item) ∧
    ∃ report, loadAll true (.list [withEdges (.text "01")]) = .error (.report report) ∧
      report.code = "invalid_pattern" := by
  have readable : ∀ item ∈ [withEdges (.text "01")], Readable true item := by
    intro item member fields same
    obtain rfl := List.mem_singleton.mp member
    cases same
    refine ⟨fun _ => listable_of_known (by simp), ?_, ?_, ?_, ?_⟩
    · rintro d ⟨⟩ -
      rfl
    · rintro pattern ⟨⟩ fields ⟨⟩
      refine ⟨fun _ => listable_of_known (by simp), ?_, nofun, ?_, ?_⟩
      · rintro d ⟨⟩ -
        rfl
      · rintro items ⟨⟩ item member
        cases member
      · rintro pairs items ⟨⟩ ⟨⟩ edges nodes ⟨⟩
    · rintro items ⟨⟩ item member
      cases member
    · rintro pattern items ⟨⟩ ⟨⟩ p procedures ⟨⟩
  refine ⟨readable, ?_⟩
  have listed : ∀ items, Data.list [withEdges (.text "01")] = .list items →
      ∀ item ∈ items, Readable true item := by
    rintro items ⟨⟩
    exact readable
  rcases loadAll_answers listed with ⟨rules, loaded⟩ | ⟨fault, report, refused, known⟩
  · cases loaded
  · cases refused
    exact ⟨_, rfl, rfl⟩

def withNodes (nodes : List Data) : Data :=
  .map [(.text "from", .map [(.text "nodes", .list nodes)])]

/-- A rule with one condition, which is on a node of this name. -/
def withCondition (name key word : Data) : Data :=
  withNodes [.map [(.text "id", .int 0), (.text "name", name),
    (.text "values", .map [(key, .list [word, .int 3])])]]

def withProcedure (kind body : Data) : Data :=
  .map [(.text "from", .map []), (.text "to", .list [.map [(kind, body)]])]

/-- A rule that adds a node with one attribute. -/
def withFormula (name key formula : Data) : Data :=
  withProcedure (.text "add") (.map [(.text "node", .map [(.text "name", name),
    (.text "values", .map [(key, formula)])])])

/-- The least integer that cannot be written. -/
def longInteger : Data := .int (Nat.pow 10 Numeral.maxDigits)

/-- Rules with an integer that cannot be written, in each of the places where it would have to be.
-/
def unwritableRules : List Data :=
  [.map [(longInteger, .null)],
    withCondition longInteger (.text "age") (.text "eq"), withCondition .null longInteger (.text "eq"),
    withCondition .null (.text "age") longInteger,
    withNodes [.map [(.text "id", longInteger)], .map [(.text "id", longInteger)]],
    withEdges (.list [.list [longInteger, longInteger]]),
    withProcedure longInteger .null, withProcedure (.text "delete") longInteger,
    withFormula longInteger (.text "age") (.text "1"), withFormula (.text "leaf") longInteger (.text "1"),
    withFormula (.text "leaf") (.text "age") longInteger]

/-- A formula that is a lone surrogate. -/
def loneSurrogate : Data := .text (.broken [.surrogate 0xD800 (by decide)] (by decide))

instance {α : Type} (w : Load α) (fault : NumberFault) : Decidable (w = .error (.number fault)) :=
  match w with
  | .error (.number other) => decidable_of_iff (other = fault) (by simp)
  | .ok _ | .error (.report _) | .error (.formula _) | .error (.noParts _) | .error (.noKey _)
  | .error (.unordered ..) => isFalse nofun

set_option maxRecDepth 2000 in
/-- Data that loading trips over: no report tells of an integer for the edges, of a list for the
kind of a condition, of fields without an order, of a null character in a formula, of a name in it
that is none in its normal form, of a formula without an encoding, or of an integer that is too long
to be written. -/
theorem unreadable_not_reported :
    loadAll true (.list [withEdges (.int 5)]) = .error (.noParts "int") ∧
    loadAll true (.list [withCondition .null (.text "age") (.list [])]) =
      .error (.noKey "list") ∧
    loadAll true (.list [.map [(.int 1, .null), (.null, .null)]]) =
      .error (.unordered "NoneType" "int") ∧
    loadAll true (.list [withFormula (.text "leaf") (.text "age") (.text "\x00")]) =
      .error (.formula .nullCharacter) ∧
    loadAll true (.list [withFormula (.text "leaf") (.text "age") (.text "Ｎone")]) =
      .error (.formula (.constantName "None")) ∧
    loadAll true (.list [withFormula (.text "leaf") (.text "age") loneSurrogate]) =
      .error (.formula (.unencodable ⟨0xD800, 0, 1⟩)) ∧
    (∀ d ∈ unwritableRules, loadAll true (.list [d]) = .error (.number .unwritable)) ∧
    ∀ fault ∈ [.noParts "int", .noKey "list", .unordered "NoneType" "int", .formula .nullCharacter,
      .formula (.constantName "None"), .formula (.unencodable ⟨0xD800, 0, 1⟩),
      .number .unwritable], LoadFault.report? fault = none :=
  ⟨by rfl, by rfl, by rfl, by rfl, by rfl, by rfl, by decide +kernel,
    by simp [LoadFault.report?, FormulaFault.report?]⟩

end Rule

end GrowthGrammar
