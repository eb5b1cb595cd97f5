import GrowthGrammar.Proofs.Formula.Evaluation
import GrowthGrammar.Proofs.Formula.Literal
import GrowthGrammar.Proofs.Rule.CheckedPasses
import GrowthGrammar.Proofs.Rule.Reloading

/-!
Templates and the faults of their formulas. A template whose texts are formulas gives a node with
its own keys and with floats under them, or it stops at a fault that is reported, unless one of its
formulas overflows. Nothing else stops a procedure.
-/
namespace GrowthGrammar

namespace Template

open Formula

variable {env : Environment} {source : Source} {key text : Spelling}
  {entries rest : List (Spelling × Spelling)}

/-! ### Lists of formulas -/

/-- A formula overflows, after those before it have given their floats. -/
def OverflowsIn (env : Environment) (entries : List (Spelling × Spelling)) (source : Source) : Prop :=
  ∃ front key text rest values after, entries = front ++ (key, text) :: rest ∧
    evalFormulas env front source = (.ok values, after) ∧ Formula.Overflows text env after

/-- Floats under the keys of the formulas. -/
def Filled (entries : List (Spelling × Spelling)) (values : List (Spelling × Scalar)) : Prop :=
  values.map (·.1) = entries.map (·.1) ∧ ∀ value ∈ values, value.2.kind = .float

theorem kind_ofDouble {x : Double} {v : Scalar} (fits : Scalar.ofDouble x = .ok v) :
    v.kind = .float := by
  obtain rfl := Scalar.eq_float_of_ofDouble fits
  rfl

theorem evalFormulas_cons_of_ok {x : Double} {v : Scalar} {mid : Source}
    (given : evaluate text env source = (.ok x, mid)) (fits : Scalar.ofDouble x = .ok v) :
    evalFormulas env ((key, text) :: rest) source =
      ((evalFormulas env rest mid).1.map ((key, v) :: ·), (evalFormulas env rest mid).2) := by
  rw [evalFormulas, given]
  dsimp only
  rw [fits]
  dsimp only
  cases evalFormulas env rest mid with
  | mk answer after => cases answer <;> rfl

/-- What gives values for all formulas has a float for the first one. -/
theorem first_of_evalFormulas {values : List (Spelling × Scalar)} {after : Source}
    (given : evalFormulas env ((key, text) :: rest) source = (.ok values, after)) :
    ∃ x v mid more, evaluate text env source = (.ok x, mid) ∧ Scalar.ofDouble x = .ok v ∧
      evalFormulas env rest mid = (.ok more, after) := by
  rw [evalFormulas] at given
  split at given
  · cases congrArg Prod.fst given
  · rename_i x mid first
    split at given
    · cases congrArg Prod.fst given
    · rename_i v fits
      split at given
      · cases congrArg Prod.fst given
      · rename_i more after later
        cases given
        exact ⟨x, v, mid, more, first, fits, later⟩

theorem not_overflowsIn_nil : ¬ OverflowsIn env [] source := by
  rintro ⟨front, key, text, rest, values, after, parts, -⟩
  cases front <;> cases parts

theorem overflowsIn_cons_iff :
    OverflowsIn env ((key, text) :: rest) source ↔ Formula.Overflows text env source ∨
      ∃ x v mid, evaluate text env source = (.ok x, mid) ∧ Scalar.ofDouble x = .ok v ∧
        OverflowsIn env rest mid := by
  constructor
  · rintro ⟨front, _, _, _, values, after, parts, given, overflows⟩
    cases front with
    | nil =>
      cases parts
      cases given
      exact .inl overflows
    | cons entry front =>
      cases parts
      obtain ⟨x, v, mid, more, first, fits, later⟩ := first_of_evalFormulas given
      exact .inr ⟨x, v, mid, first, fits, front, _, _, _, more, after, rfl, later, overflows⟩
  · rintro (overflows | ⟨x, v, mid, first, fits, tail⟩)
    · exact ⟨[], key, text, rest, [], source, rfl, rfl, overflows⟩
    · obtain ⟨front, _, _, _, values, after, rfl, later, overflows⟩ := tail
      refine ⟨(key, text) :: front, _, _, _, (key, v) :: values, after, rfl, ?_, overflows⟩
      rw [evalFormulas_cons_of_ok first fits, later]
      rfl

theorem evalFormulas_of_overflows (overflows : OverflowsIn env entries source) :
    (evalFormulas env entries source).1 = .error .outsideDouble := by
  induction entries generalizing source with
  | nil => exact absurd overflows not_overflowsIn_nil
  | cons entry rest ih =>
    obtain ⟨key, text⟩ := entry
    rcases overflowsIn_cons_iff.mp overflows with here | ⟨x, v, mid, first, fits, later⟩
    · have stopped := evaluate_of_overflows here
      rw [evalFormulas]
      split
      · rename_i fault after given
        rw [given] at stopped
        cases stopped
        rfl
      · rename_i x mid given
        rw [given] at stopped
        cases stopped
    · rw [evalFormulas_cons_of_ok first fits, ih later]
      rfl

theorem evalFormulas_settles (numeric : env.Numeric)
    (parsed : ∀ entry ∈ entries, (parse entry.2).isOk = true)
    (fits : ¬ OverflowsIn env entries source) :
    Settles (Filled entries) (evalFormulas env entries source).1 := by
  induction entries generalizing source with
  | nil => exact .ok ⟨rfl, fun _ member => absurd member List.not_mem_nil⟩
  | cons entry rest ih =>
    obtain ⟨key, text⟩ := entry
    obtain ⟨formula, known⟩ := Work.isOk_iff.mp (parsed _ List.mem_cons_self)
    rw [overflowsIn_cons_iff, not_or] at fits
    have first := evaluate_settles known numeric fits.1
    cases given : evaluate text env source with
    | mk answer mid =>
      rw [given] at first
      cases answer with
      | error fault =>
        rw [evalFormulas, given]
        cases first with
        | error told => exact .error told
      | ok x =>
        cases single : Scalar.ofDouble x with
        | error fault =>
          rw [evalFormulas, given]
          dsimp only
          rw [single]
          exact .error ⟨_, rfl, rfl⟩
        | ok v =>
          have later : Settles (Filled rest) (evalFormulas env rest mid).1 := ih
            (fun other member => parsed other (List.mem_cons_of_mem _ member))
            fun overflows => fits.2 ⟨x, v, mid, given, single, overflows⟩
          rw [evalFormulas_cons_of_ok given single]
          generalize (evalFormulas env rest mid).1 = answer at later ⊢
          cases later with
          | error told => exact .error told
          | ok filled =>
            obtain ⟨keys, floats⟩ := filled
            exact .ok ⟨congrArg (key :: ·) keys,
              List.forall_mem_cons.mpr ⟨kind_ofDouble single, floats⟩⟩

/-! ### Whole templates -/

theorem environment_numeric (base : Option Node) : (environment base).Numeric := by
  intro entry member
  rcases List.mem_cons.mp member with rfl | member
  · exact .inr rfl
  · cases base with
    | none => exact absurd member List.not_mem_nil
    | some node =>
      obtain ⟨number, -, rfl⟩ := List.mem_map.mp member
      exact .inl rfl

/-- A formula of the template overflows, after those before it have given their floats. -/
def Overflows (t : Template) (base : Option Node) (source : Source) : Prop :=
  OverflowsIn (environment base) t.formulas.entries source

/-- The node has the name and the keys of the template, in their order, and only floats. -/
structure Fills (t : Template) (node : Node) : Prop where
  name : node.name = t.name
  keys : node.attributes.keys = t.formulas.keys
  floats : ∀ v ∈ node.attributes.values, v.kind = .float

variable {t : Template} {base : Option Node}

theorem eval_of_overflows (overflows : t.Overflows base source) :
    (t.eval base source).1 = .error .outsideDouble := by
  have stopped := evalFormulas_of_overflows overflows
  rw [eval]
  cases given : evalFormulas (environment base) t.formulas.entries source with
  | mk answer after =>
    rw [given] at stopped
    cases stopped
    rfl

theorem eval_settles (valid : t.validate = .ok ()) (fits : ¬ t.Overflows base source) :
    Settles t.Fills (t.eval base source).1 := by
  have parsed : ∀ entry ∈ t.formulas.entries, (parse entry.2).isOk = true :=
    fun entry member => validate_ok_iff.mp valid entry.2 (List.mem_map_of_mem member)
  have answer := evalFormulas_settles (environment_numeric base) parsed fits
  rw [eval]
  cases given : evalFormulas (environment base) t.formulas.entries source with
  | mk result after =>
    rw [given] at answer
    cases answer with
    | error told => exact .error told
    | ok filled =>
      rename_i values
      obtain ⟨keys, floats⟩ := filled
      -- The keys are those of a catalog, so that no value overrides another.
      have kept := Catalog.entries_ofList (keys ▸ t.formulas.distinct)
      have same : (Catalog.ofList values).keys = t.formulas.keys := by
        rw [Catalog.keys, kept]
        exact keys
      refine .ok ⟨rfl, same, fun v member => ?_⟩
      obtain ⟨value, stored, rfl⟩ := List.mem_map.mp member
      exact floats value (kept ▸ stored)

theorem settles_eval_iff (valid : t.validate = .ok ()) :
    Settles t.Fills (t.eval base source).1 ↔ ¬ t.Overflows base source := by
  refine ⟨fun settled overflows => ?_, eval_settles valid⟩
  rw [eval_of_overflows overflows] at settled
  exact not_settles_outsideDouble settled

end Template

/-! ### Procedures -/

namespace Procedure

open Formula

/-- With every lookup as one that may lapse, and without, the procedure gives a result, or it stops
at a fault of a formula. Such a fault is reported unless the template overflows on some base. -/
def SettlesOn (p : Procedure) (b : Bindings) (site : Site) : Prop :=
  (∃ result after, (Checked.apply p b).run site = (.ok result, after) ∧
    (p.apply b).run site = (.ok result, after)) ∨
  ∃ fault after, (Checked.apply p b).run site = (.error (.formula fault), after) ∧
    (p.apply b).run site = (.error (.formula fault), after) ∧
    (fault.IsReported ∨ fault = .outsideDouble ∧
      ∃ t base source, p.template? = some t ∧ t.Overflows base source)

theorem apply_settles {p : Procedure} {site : Site} (b : Bindings) (sound : site.scene.Sound)
    (valid : ∀ t, p.template? = some t → t.validate = .ok ()) : p.SettlesOn b site := by
  have lapseless := Rule.Checked.apply_lapseless p b sound
  have follows := lapseless.follows
  unfold SettlesOn
  cases ran : (p.apply b).run site with
  | mk answer after =>
    rw [CheckedWork.Follows, CheckedWork.plain_run ran] at follows
    cases answer with
    | ok result => exact .inl ⟨result, after, follows, rfl⟩
    | error fault =>
      obtain ⟨fault, rfl, t, known, base, source, left, stopped⟩ :=
        lapseless.stops fault after ran
      refine .inr ⟨fault, after, follows, rfl, ?_⟩
      by_cases overflows : t.Overflows base source
      · have outside := Template.eval_of_overflows overflows
        rw [stopped] at outside
        cases outside
        exact .inr ⟨rfl, t, base, source, known, overflows⟩
      · have settled := Template.eval_settles (valid t known) overflows
        rw [stopped] at settled
        cases settled with
        | error told => exact .inl told

/-- A formula over numbers gives a float, a template whose texts are formulas gives a node with the
keys of the template and with floats alone, and a procedure gives a result, in whatever scene and
with whatever bindings; or they stop at a fault that is reported as one of an expression. It is only
an integer that no double is nearest to, as the value of a formula, that ends otherwise. -/
theorem settles_unless_overflows (source : Source) :
    (∀ text env, (∃ formula, parse text = .ok formula) → Environment.Numeric env →
      (Settles (fun _ => True) (evaluate text env source).1 ↔ ¬ Formula.Overflows text env source) ∧
      (Formula.Overflows text env source → (evaluate text env source).1 = .error .outsideDouble)) ∧
    (∀ (t : Template) base, t.validate = .ok () →
      (Settles t.Fills (t.eval base source).1 ↔ ¬ t.Overflows base source) ∧
      (t.Overflows base source → (t.eval base source).1 = .error .outsideDouble)) ∧
    ∀ ops (p : Procedure) b notes, (∀ t, p.template? = some t → t.validate = .ok ()) →
      p.SettlesOn b ⟨Scene.empty.run ops, source, notes⟩ := by
  refine ⟨fun text env known numeric => ?_, fun t base valid => ?_, fun ops p b notes valid => ?_⟩
  · obtain ⟨formula, parsed⟩ := known
    exact ⟨settles_evaluate_iff parsed numeric, evaluate_of_overflows⟩
  · exact ⟨Template.settles_eval_iff valid, Template.eval_of_overflows⟩
  · exact apply_settles b (Scene.run_planted ops Scene.empty_planted).toSound valid

/-- A leaf with a product for its area. -/
def areaLeaf : Template := ⟨"leaf", .ofList [("area", "2 * 3")]⟩

theorem parse_area : parse "2 * 3" = .ok (.arithmetic .mul (.int 2) (.int 3)) := by rfl

theorem areaLeaf_fits (base : Option Node) (source : Source) :
    ¬ areaLeaf.Overflows base source := by
  rintro ⟨front, key, text, rest, values, after, parts, -, formula, n, parsed, value, large⟩
  have entry : (key, text) ∈ areaLeaf.formulas.entries :=
    parts ▸ List.mem_append_right front List.mem_cons_self
  obtain ⟨-, rfl⟩ := Prod.mk.inj (List.mem_singleton.mp entry)
  cases parse_area.symm.trans parsed
  have six : Except.ok (Operand.int 6) = .ok (.int n) := value
  cases six
  exact absurd large (by decide +kernel)

/-- A remainder by zero is reported, and a leaf is made and added to an empty scene. -/
theorem areaLeaf_settles :
    Settles (fun _ => True) (evaluate "1 % 0" [] .unseeded).1 ∧ areaLeaf.validate = .ok () ∧
    Settles areaLeaf.Fills (areaLeaf.eval none .unseeded).1 ∧
    (Procedure.add [] areaLeaf).SettlesOn .empty ⟨Scene.empty.run [], .unseeded, []⟩ := by
  have remainder : parse "1 % 0" = .ok (.arithmetic .mod (.int 1) (.int 0)) := by rfl
  have valid : areaLeaf.validate = .ok () := by
    refine Template.validate_ok_iff.mpr fun text member => ?_
    obtain rfl : text = "2 * 3" := List.mem_singleton.mp member
    exact Work.isOk_iff.mpr ⟨_, parse_area⟩
  obtain ⟨formulas, templates, procedures⟩ := settles_unless_overflows .unseeded
  refine ⟨?_, valid, ?_, ?_⟩
  · have numeric : Environment.Numeric [] := List.forall_mem_nil _
    refine (formulas "1 % 0" [] ⟨_, remainder⟩ numeric).1.mpr ?_
    rintro ⟨formula, n, parsed, value, -⟩
    cases remainder.symm.trans parsed
    have stopped : Except.error EvaluationFault.integerModuloByZero = .ok (Operand.int n) := value
    cases stopped
  · exact (templates areaLeaf none valid).1.mpr (areaLeaf_fits none .unseeded)
  · refine procedures [] (.add [] areaLeaf) .empty [] ?_
    rintro t ⟨⟩
    exact valid

/-- A leaf with the digits of a number for a formula. -/
def digitLeaf (n : Nat) : Template := ⟨"leaf", .ofList [("x", .plain (toString n))]⟩

theorem digitLeaf_overflows {n : Nat} (few : n < 10 ^ Numeral.maxDigits)
    (large : 2 ^ 1024 - 2 ^ 970 ≤ n) :
    (digitLeaf n).validate = .ok () ∧
      ∀ base source, ((digitLeaf n).eval base source).1 = .error .outsideDouble := by
  have parsed := parse_toString few
  constructor
  · refine Template.validate_ok_iff.mpr fun text member => ?_
    obtain rfl : text = toString n := List.mem_singleton.mp member
    exact Work.isOk_iff.mpr ⟨.int n, parsed⟩
  · intro base source
    have value : (((Formula.int n).eval (Template.environment base)).run source).1 =
        .ok (.int n) := rfl
    exact Template.eval_of_overflows
      ⟨[], "x", toString n, [], [], source, rfl, rfl, .int n, n, parsed, value, large⟩

/-- Ten to the power 309 has few enough digits for a formula and is too large for a float. -/
theorem digitLeaf_not_reported :
    (digitLeaf (10 ^ 309)).validate = .ok () ∧
    ((digitLeaf (10 ^ 309)).eval none .unseeded).1 = .error .outsideDouble ∧
    FormulaFault.report? .outsideDouble = none := by
  have few : 10 ^ 309 < 10 ^ Numeral.maxDigits := by
    rw [Nat.pow_lt_pow_iff_right (by decide)]
    decide
  have large : 2 ^ 1024 - 2 ^ 970 ≤ 10 ^ 309 := by decide +kernel
  obtain ⟨valid, stops⟩ := digitLeaf_overflows few large
  exact ⟨valid, stops none .unseeded, rfl⟩

end Procedure

end GrowthGrammar
