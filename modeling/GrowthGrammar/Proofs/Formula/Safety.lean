import GrowthGrammar.Formula.Evaluation
import Mathlib.Algebra.Order.Ring.Nat
import Mathlib.Data.List.Basic

/-!
Safe trees. The search through the levels of a tree accepts exactly the trees of the arithmetic
language, whatever the place of an element outside it; and what a tree is compiled to is the tree
itself with each power as a call of the function for powers of floats.
-/
namespace GrowthGrammar

/-- The operator as it is written. -/
def Arithmetic.operator : Arithmetic → Formula.BinaryOperator
  | .add => .add
  | .sub => .sub
  | .mul => .mul
  | .div => .div
  | .floorDiv => .floorDiv
  | .mod => .mod

namespace Formula

namespace Tree

/-- Arithmetic over numbers, names and draws. -/
inductive Safe : Tree → Prop where
  | int (n : Nat) : Safe (.int n)
  | float (x : Double) : Safe (.float x)
  | name (s : String) : Safe (.name s)
  | positive {operand : Tree} : Safe operand → Safe (.unary .plus operand)
  | negative {operand : Tree} : Safe operand → Safe (.unary .minus operand)
  | arithmetic (op : Arithmetic) {left right : Tree} : Safe left → Safe right →
      Safe (.binary op.operator left right)
  | power {base exponent : Tree} : Safe base → Safe exponent → Safe (.binary .pow base exponent)
  | draw {low high : Tree} : Safe low → Safe high →
      Safe (.call (.name drawName) [low, high] false)

/-! ### The search for faults -/

variable {t c : Tree} {depth : Nat}

theorem height_pos (t : Tree) : 0 < t.height := by
  cases t <;> simp [height]

theorem height_le_heights {ts : List Tree} (member : c ∈ ts) : c.height ≤ heights ts := by
  induction ts with
  | nil => cases member
  | cons first rest ih =>
    rw [heights]
    rcases List.mem_cons.mp member with rfl | member
    · exact Nat.le_max_left ..
    · exact (ih member).trans (Nat.le_max_right ..)

/-- Below a unary operator stands its operand, and the operator itself if it is none of arithmetic. -/
theorem mem_children_unary {op : UnaryOperator} {operand : Tree} :
    c ∈ (unary op operand).children ↔
      (∃ kind, op = .foreign kind ∧ c = .foreign kind false) ∨ c = operand := by
  cases op <;> simp [children, ofForeign]

theorem mem_children_binary {op : BinaryOperator} {left right : Tree} :
    c ∈ (binary op left right).children ↔
      (∃ kind, op = .foreign kind ∧ c = .foreign kind false) ∨ c = left ∨ c = right := by
  cases op <;> simp [children, ofForeign, or_left_comm]

theorem height_lt (below : c ∈ t.children) : c.height < t.height := by
  cases t with
  | int | float | constant | name | foreign => cases below
  | unary op operand =>
    have room := operand.height_pos
    rcases mem_children_unary.mp below with ⟨kind, -, rfl⟩ | rfl <;> simp only [height] <;> omega
  | binary op left right =>
    have room := left.height_pos
    rcases mem_children_binary.mp below with ⟨kind, -, rfl⟩ | rfl | rfl <;>
      simp only [height] <;> omega
  | call function arguments keywords =>
    rw [height, Nat.lt_succ_iff]
    rcases List.mem_cons.mp below with rfl | member
    · exact Nat.le_max_left ..
    · exact (height_le_heights member).trans (Nat.le_max_right ..)

/-- What holds of a tree if it holds of the trees right below it holds of all trees. -/
theorem induction_children {P : Tree → Prop} (step : ∀ t, (∀ c ∈ t.children, P c) → P t)
    (t : Tree) : P t :=
  (measure height).wf.induction t fun t ih => step t fun _ below => ih _ (height_lt below)

theorem level_of_height_le (low : t.height ≤ depth) : level depth t = [] := by
  induction depth generalizing t with
  | zero => exact absurd t.height_pos (Nat.not_lt.mpr low)
  | succ depth ih =>
    rw [level, List.flatMap_eq_nil_iff]
    exact fun c below => ih (Nat.le_of_lt_succ ((height_lt below).trans_le low))

theorem fault?_eq_none_iff :
    t.fault? = none ↔ ∀ depth, ∀ part ∈ level depth t, part.rootFault? = none := by
  simp only [fault?, List.findSome?_eq_none_iff, List.mem_range]
  refine forall_congr' fun depth => ⟨fun known => ?_, fun known _ => known⟩
  rcases Nat.lt_or_ge depth (t.height + 1) with within | beyond
  · exact known within
  · rw [level_of_height_le ((Nat.le_succ _).trans beyond)]
    exact List.forall_mem_nil _

/-- A tree is without faults if its root is, and the trees right below. -/
theorem fault?_step :
    t.fault? = none ↔ t.rootFault? = none ∧ ∀ c ∈ t.children, c.fault? = none := by
  simp only [fault?_eq_none_iff]
  constructor
  · intro known
    refine ⟨known 0 t (List.mem_singleton_self t), fun c below depth part member => ?_⟩
    exact known (depth + 1) part (List.mem_flatMap.mpr ⟨c, below, member⟩)
  · rintro ⟨root, below⟩ depth part member
    cases depth with
    | zero => rwa [List.mem_singleton.mp member]
    | succ depth =>
      obtain ⟨c, child, member⟩ := List.mem_flatMap.mp member
      exact below c child depth part member

theorem isDraw_iff {function : Tree} : function.isDraw = true ↔ function = .name drawName := by
  cases function <;> simp [isDraw]

theorem rootFault?_call {function : Tree} {arguments : List Tree} {keywords : Bool} :
    (call function arguments keywords).rootFault? = none ↔
      function = .name drawName ∧ keywords = false ∧ ∃ low high, arguments = [low, high] := by
  rw [← List.length_eq_two, ← isDraw_iff, rootFault?]
  cases function.isDraw <;> cases keywords <;> by_cases two : arguments.length = 2 <;> simp [two]

theorem Safe.faultless (safe : t.Safe) : t.fault? = none := by
  induction safe with
  | int | float | name => exact fault?_step.mpr ⟨rfl, List.forall_mem_nil _⟩
  | positive _ ih | negative _ ih => exact fault?_step.mpr ⟨rfl, List.forall_mem_singleton.mpr ih⟩
  | arithmetic op _ _ ihl ihr =>
    refine fault?_step.mpr ⟨rfl, fun c below => ?_⟩
    rcases mem_children_binary.mp below with ⟨kind, foreign, -⟩ | rfl | rfl
    · cases op <;> cases foreign
    · exact ihl
    · exact ihr
  | power _ _ ihb ihe => exact fault?_step.mpr ⟨rfl, by simp [children, ihb, ihe]⟩
  | draw _ _ ihl ihh =>
    have function : Tree.fault? (.name drawName) = none :=
      fault?_step.mpr ⟨rfl, List.forall_mem_nil _⟩
    exact fault?_step.mpr ⟨rfl, by simp [children, function, ihl, ihh]⟩

theorem not_foreign {kind : String} {assignable : Bool} :
    (foreign kind assignable).fault? ≠ none := fun known => by
  cases (fault?_step.mp known).1

/-- Nothing outside the language comes through the search. -/
theorem safe_of_fault? (known : t.fault? = none) : t.Safe := by
  induction t using induction_children with
  | step t ih =>
    obtain ⟨root, below⟩ := fault?_step.mp known
    have safe : ∀ c ∈ t.children, c.Safe := fun c child => ih c child (below c child)
    cases t with
    | int n => exact .int n
    | float x => exact .float x
    | name s => exact .name s
    | constant => cases root
    | foreign kind assignable => cases root
    | unary op operand =>
      have inner := safe operand (mem_children_unary.mpr (.inr rfl))
      cases op with
      | plus => exact .positive inner
      | minus => exact .negative inner
      | foreign kind => exact absurd (below _ List.mem_cons_self) not_foreign
    | binary op left right =>
      have first := safe left (mem_children_binary.mpr (.inr (.inl rfl)))
      have second := safe right (mem_children_binary.mpr (.inr (.inr rfl)))
      cases op with
      | add => exact .arithmetic .add first second
      | sub => exact .arithmetic .sub first second
      | mul => exact .arithmetic .mul first second
      | div => exact .arithmetic .div first second
      | floorDiv => exact .arithmetic .floorDiv first second
      | mod => exact .arithmetic .mod first second
      | pow => exact .power first second
      | foreign kind =>
        exact absurd (below _ (mem_children_binary.mpr (.inl ⟨kind, rfl, rfl⟩))) not_foreign
    | call function arguments keywords =>
      obtain ⟨rfl, rfl, low, high, rfl⟩ := rootFault?_call.mp root
      exact .draw (safe low (by simp [children])) (safe high (by simp [children]))

theorem fault?_eq_none_iff_safe : t.fault? = none ↔ t.Safe := ⟨safe_of_fault?, Safe.faultless⟩

/-! ### What is compiled -/

mutual

/-- The tree with each power as a call of the function for powers of floats. -/
def withFloatPowers : Tree → Tree
  | .unary op operand => .unary op operand.withFloatPowers
  | .binary op left right =>
    match op with
    | .pow => .call (.name powerName) [left.withFloatPowers, right.withFloatPowers] false
    | op => .binary op left.withFloatPowers right.withFloatPowers
  | .call function arguments keywords =>
    .call function.withFloatPowers (allWithFloatPowers arguments) keywords
  | t => t

def allWithFloatPowers : List Tree → List Tree
  | [] => []
  | t :: ts => t.withFloatPowers :: allWithFloatPowers ts

end

/-- The tree stands somewhere in another one, be it as the whole of it. -/
inductive Part (part : Tree) : Tree → Prop where
  | self : Part part part
  | inside {t c : Tree} : c ∈ t.children → Part part c → Part part t

theorem part_iff {part : Tree} : Part part t ↔ part = t ∨ ∃ c ∈ t.children, Part part c := by
  constructor
  · rintro (_ | ⟨below, inner⟩)
    · exact .inl rfl
    · exact .inr ⟨_, below, inner⟩
  · rintro (rfl | ⟨c, below, inner⟩)
    · exact .self
    · exact .inside below inner

theorem part_leaf {part : Tree} (leaf : t.children = []) : Part part t ↔ part = t := by
  rw [part_iff, leaf]
  simp

end Tree

/-- The tree that a formula is evaluated as. -/
def toTree : Formula → Tree
  | .int n => .int n
  | .float x => .float x
  | .name s => .name s
  | .positive operand => .unary .plus operand.toTree
  | .negative operand => .unary .minus operand.toTree
  | .arithmetic op left right => .binary op.operator left.toTree right.toTree
  | .power base exponent => .call (.name powerName) [base.toTree, exponent.toTree] false
  | .random low high => .call (.name drawName) [low.toTree, high.toTree] false

namespace Tree

variable {t : Tree}

theorem Safe.toTree_toFormula (safe : t.Safe) : t.toFormula.toTree = t.withFloatPowers := by
  induction safe with
  | int | float | name => rfl
  | positive _ ih | negative _ ih => rw [toFormula, toTree, ih, withFloatPowers]
  | arithmetic op _ _ ihl ihr =>
    cases op <;> exact congrArg₂ (Tree.binary _) ihl ihr
  | power _ _ ihb ihe =>
    rw [toFormula, toTree, ihb, ihe]
    rfl
  | draw _ _ ihl ihh =>
    show Tree.call (.name drawName) [_, _] false = _
    rw [ihl, ihh]
    rfl

theorem not_part_name {s : String} {part : Tree} (other : part ≠ .name s) :
    ¬ Part part (.name s) := by
  rwa [part_leaf rfl]

/-- No power is left in what is compiled. -/
theorem not_part_pow (formula : Formula) (base exponent : Tree) :
    ¬ Part (.binary .pow base exponent) formula.toTree := by
  induction formula with
  | int | float | name => exact (part_leaf rfl).not.mpr Tree.noConfusion
  | positive operand ih | negative operand ih =>
    rw [part_iff]
    simpa [toTree, children] using ih
  | arithmetic op left right ihl ihr =>
    rw [part_iff]
    cases op <;> simpa [toTree, children, Arithmetic.operator] using ⟨ihl, ihr⟩
  | power left right ihl ihr | random left right ihl ihr =>
    rw [part_iff]
    simpa [toTree, children, not_part_name] using ⟨ihl, ihr⟩

/-- The names in a formula are those in its tree, but for the function that draws. -/
theorem Safe.part_name_iff (safe : t.Safe) {s : String} (other : s ≠ drawName) :
    Part (.name s) t ↔ s ∈ t.toFormula.names := by
  induction safe with
  | int | float | name => exact (part_leaf rfl).trans (by simp [toFormula, names])
  | positive _ ih | negative _ ih =>
    rw [part_iff]
    simpa [children, toFormula, names] using ih
  | arithmetic op _ _ ihl ihr =>
    rw [part_iff]
    cases op <;> simp [children, toFormula, names, Arithmetic.operator, ihl, ihr]
  | power _ _ ihb ihe =>
    rw [part_iff]
    simp [children, toFormula, names, ihb, ihe]
  | draw _ _ ihl ihh =>
    rw [part_iff]
    simp [children, toFormula, toFormulas, names, not_part_name, other, ihl, ihh]

end Tree

/-! ### Texts -/

/-- The text is an expression with this tree. It has an encoding then, and what is encoded is the
text without the white space around it. -/
def Spells (text : Spelling) (t : Tree) : Prop :=
  ∃ source, text.trim.encode = .ok source ∧ source.toList.contains '\x00' = false ∧
    Tree.ofText? source = some t

variable {text : Spelling} {t : Tree}

theorem Spells.of_tokens (cs : List Char) (tokens : List Token)
    (trimmed : text.trim = .plain (String.ofList cs)) (clean : cs.contains '\x00' = false)
    (tokenized : Token.ofText? cs = some tokens)
    (whole : Grammar.whole (Grammar.phrase (8 * cs.length + 8)) tokens = some t) :
    Spells text t := by
  refine ⟨String.ofList cs, by rw [trimmed, Spelling.encode_plain], ?_, ?_⟩
  · rwa [String.toList_ofList]
  · rw [Tree.ofText?, String.toList_ofList, tokenized]
    exact whole

theorem Spells.parse_ok_iff (spells : Spells text t) {formula : Formula} :
    parse text = .ok formula ↔
      t.Safe ∧ t.toFormula = formula ∧ ∀ s ∈ formula.names, s ∉ constantNames := by
  obtain ⟨source, encoded, clean, tree⟩ := spells
  rw [parse, encoded]
  dsimp only
  rw [clean, tree, ← Tree.fault?_eq_none_iff_safe]
  dsimp only [Tree.compile]
  cases t.fault? with
  | some fault => simp
  | none =>
    dsimp only
    cases found : t.toFormula.names.find? constantNames.contains with
    | some word =>
      have constant := List.find?_some found
      have named := List.mem_of_find?_eq_some found
      constructor
      · intro parsed
        cases parsed
      · rintro ⟨-, rfl, free⟩
        exact absurd (List.contains_iff_mem.mp constant) (free word named)
    | none =>
      have free : ∀ s ∈ t.toFormula.names, s ∉ constantNames := by
        simpa using List.find?_eq_none.mp found
      constructor
      · intro parsed
        cases parsed
        exact ⟨rfl, rfl, free⟩
      · rintro ⟨-, rfl, -⟩
        rfl

/-- A text is accepted exactly if what it spells is arithmetic over numbers, names and draws and no
name in it is a word for a constant. What it is compiled to is what it spells, with each power as a
call of the function for powers of floats, wherever it stands. -/
theorem accepted_iff_safe (spells : Spells text t) :
    ((∃ formula, parse text = .ok formula) ↔
      t.Safe ∧ ∀ s ∈ constantNames, ¬ Tree.Part (.name s) t) ∧
    ∀ formula, parse text = .ok formula →
      formula.toTree = t.withFloatPowers ∧
      ∀ base exponent, ¬ Tree.Part (.binary .pow base exponent) formula.toTree := by
  have apart : drawName ∉ constantNames := by decide
  constructor
  · constructor
    · rintro ⟨formula, parsed⟩
      obtain ⟨safe, rfl, free⟩ := spells.parse_ok_iff.mp parsed
      refine ⟨safe, fun s constant inside => free s ?_ constant⟩
      exact (safe.part_name_iff (ne_of_mem_of_not_mem constant apart)).mp inside
    · rintro ⟨safe, free⟩
      refine ⟨t.toFormula, spells.parse_ok_iff.mpr ⟨safe, rfl, fun s named constant => ?_⟩⟩
      have other := ne_of_mem_of_not_mem constant apart
      exact free s constant ((safe.part_name_iff other).mpr named)
  · intro formula parsed
    obtain ⟨safe, rfl, -⟩ := spells.parse_ok_iff.mp parsed
    exact ⟨safe.toTree_toFormula, Tree.not_part_pow _⟩

/-- The tree of `-x**2//rand(0,1)`. -/
def quotientOfDraw : Tree :=
  .binary .floorDiv (.unary .minus (.binary .pow (.name "x") (.int 2)))
    (.call (.name "rand") [.int 0, .int 1] false)

theorem spells_quotientOfDraw : Spells "-x**2//rand(0,1)" quotientOfDraw :=
  .of_tokens "-x**2//rand(0,1)".toList
    [.sign "-", .word "x", .sign "**", .number (.int 2), .sign "//", .word "rand", .sign "(",
      .number (.int 0), .sign ",", .number (.int 1), .sign ")"]
    rfl rfl rfl rfl

theorem quotientOfDraw_accepted :
    Spells "-x**2//rand(0,1)" quotientOfDraw ∧
    ∃ formula, parse "-x**2//rand(0,1)" = .ok formula ∧
      formula.toTree = .binary .floorDiv
        (.unary .minus (.call (.name powerName) [.name "x", .int 2] false))
        (.call (.name "rand") [.int 0, .int 1] false) := by
  have spells := spells_quotientOfDraw
  have safe : quotientOfDraw.Safe :=
    .arithmetic .floorDiv (.negative (.power (.name _) (.int _))) (.draw (.int _) (.int _))
  have free : ∀ s ∈ constantNames, ¬ Tree.Part (.name s) quotientOfDraw := by
    intro s constant inside
    have other : s ≠ drawName := ne_of_mem_of_not_mem constant (by decide)
    have named : s ∈ ["x"] := (safe.part_name_iff other).mp inside
    exact absurd constant (List.mem_singleton.mp named ▸ by decide)
  obtain ⟨accepted, form⟩ := accepted_iff_safe spells
  obtain ⟨formula, parsed⟩ := accepted.mpr ⟨safe, free⟩
  exact ⟨spells, formula, parsed, (form formula parsed).1⟩

set_option maxRecDepth 2000 in
/-- A text whose normal form is a word for a constant spells a name, but is not accepted. -/
theorem wideNone_not_accepted :
    Spells "\uff2eone" (.name "None") ∧ (Tree.name "None").Safe ∧
    ¬ ∃ formula, parse "\uff2eone" = .ok formula := by
  have normal : Text.normalName "\uff2eone" = "None" := by decide +kernel
  have spells : Spells "\uff2eone" (.name "None") := by
    rw [← normal]
    exact .of_tokens ['\uff2e', 'o', 'n', 'e'] [.word "\uff2eone"] rfl rfl rfl rfl
  refine ⟨spells, .name _, ?_⟩
  rintro ⟨formula, parsed⟩
  obtain ⟨-, rfl, free⟩ := spells.parse_ok_iff.mp parsed
  exact free "None" (List.mem_singleton_self _) (by decide)

end Formula

end GrowthGrammar
