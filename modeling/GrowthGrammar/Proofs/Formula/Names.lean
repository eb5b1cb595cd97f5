import GrowthGrammar.Proofs.Formula.Evaluation
import GrowthGrammar.Proofs.Formula.Safety
import GrowthGrammar.Rule.Template
import Mathlib.Logic.Function.Iterate

/-!
Names in formulas. A formula reads of its environment the names that are written in it and the names
of the two functions that draws and powers call. A template puts the function for draws before the
attributes of its base, so that no attribute hides it; nothing does so for powers, and an attribute
of the name of their function is called in its place.
-/
namespace GrowthGrammar

/-! ### Counting draws -/

/-- The source after a number of draws. -/
def Source.skip (count : Nat) (source : Source) : Source := (fun s => s.draw.2)^[count] source

theorem Source.skip_add (first second : Nat) (source : Source) :
    source.skip (first + second) = (source.skip first).skip second := by
  rw [skip, Nat.add_comm, Function.iterate_add_apply]
  rfl

namespace Evaluation

variable {α β : Type} {w : Evaluation α} {count : Source → Nat}

/-- What is counted after an evaluation that gives a result. -/
def countAfter (w : Evaluation α) (more : α → Source → Nat) (source : Source) : Nat :=
  match w.run source with
  | (.ok a, after) => more a after
  | (.error _, _) => 0

/-- The evaluation leaves each source as that many draws do. -/
def Makes (w : Evaluation α) (count : Source → Nat) : Prop :=
  ∀ source, (w.run source).2 = source.skip (count source)

theorem Makes.bind {f : α → Evaluation β} {more : α → Source → Nat} (first : w.Makes count)
    (second : ∀ a, (f a).Makes (more a)) :
    (w >>= f).Makes fun source => count source + w.countAfter more source := by
  intro source
  have counted := first source
  rw [Work.run_bind, Source.skip_add, ← counted, countAfter]
  split
  · rename_i a after ran
    rw [ran]
    exact second a after
  · rename_i fault after ran
    rw [ran]
    rfl

theorem makes_pure (a : α) : (pure a : Evaluation α).Makes fun _ => 0 := fun _ => rfl

theorem makes_ofExcept (answer : Except EvaluationFault α) :
    (ofExcept answer).Makes fun _ => 0 := by
  intro source
  cases answer <;> rfl

theorem makes_draw : draw.Makes fun _ => 1 := fun _ => rfl

theorem countAfter_zero (w : Evaluation α) (source : Source) :
    w.countAfter (fun _ _ => 0) source = 0 := by
  unfold countAfter
  split <;> rfl

/-- Work after the last draw adds nothing. -/
theorem Makes.bind_ofExcept (first : w.Makes count) (f : α → Except EvaluationFault β) :
    (w >>= fun a => ofExcept (f a)).Makes count := by
  have both := first.bind fun a => makes_ofExcept (f a)
  simpa only [countAfter_zero, Nat.add_zero] using both

/-- How many draws a call of an operand makes: one at most. -/
def drawsOfCall (function a b : Operand) : Nat :=
  match function with
  | .draw => if (Operand.arithmetic .sub b a).isOk then 1 else 0
  | _ => 0

theorem uniform_makes (low high : Operand) :
    (uniform low high).Makes fun _ => drawsOfCall .draw low high := by
  unfold uniform drawsOfCall
  cases Operand.arithmetic .sub high low with
  | error fault => exact fun _ => rfl
  | ok width =>
    have drawn := makes_draw.bind fun r =>
      (makes_ofExcept (Operand.arithmetic .mul width (.float r))).bind_ofExcept fun part =>
        Operand.arithmetic .add low part
    simp only [countAfter_zero] at drawn
    exact drawn

theorem call_makes (function a b : Operand) :
    (call function a b).Makes fun _ => drawsOfCall function a b := by
  cases function with
  | draw => exact uniform_makes a b
  | power => exact makes_ofExcept (Operand.floatPower a b)
  | data | text | list => exact fun _ => rfl

/-- The draws of two operands, one after the other, and of what is done with both. -/
def drawsOfTwo (left right : Evaluation Operand) (first second : Source → Nat)
    (last : Operand → Operand → Nat) (source : Source) : Nat :=
  first source + left.countAfter
    (fun a mid => second mid + right.countAfter (fun b _ => last a b) mid) source

theorem makes_two {left right : Evaluation Operand} {first second : Source → Nat}
    {f : Operand → Operand → Evaluation Operand} {last : Operand → Operand → Nat}
    (leftMakes : left.Makes first) (rightMakes : right.Makes second)
    (lastMakes : ∀ a b, (f a b).Makes fun _ => last a b) :
    (do let a ← left; let b ← right; f a b).Makes (drawsOfTwo left right first second last) :=
  leftMakes.bind fun a => rightMakes.bind fun b => lastMakes a b

end Evaluation

namespace Formula

open Evaluation

/-- How many draws the evaluation of a formula makes, be it that it ends in a fault. -/
def draws (env : Environment) : Formula → Source → Nat
  | .int _ | .float _ | .name _ => fun _ => 0
  | .positive operand | .negative operand => operand.draws env
  | .arithmetic _ left right =>
    drawsOfTwo (left.eval env) (right.eval env) (left.draws env) (right.draws env) fun _ _ => 0
  | .power base exponent =>
    (ofExcept (lookup env powerName)).countAfter fun function =>
      drawsOfTwo (base.eval env) (exponent.eval env) (base.draws env) (exponent.draws env)
        (drawsOfCall function)
  | .random low high =>
    (ofExcept (lookup env drawName)).countAfter fun function =>
      drawsOfTwo (low.eval env) (high.eval env) (low.draws env) (high.draws env)
        (drawsOfCall function)

variable {env env' : Environment}

theorem makes_call {name : String} {left right : Formula}
    (leftMakes : (left.eval env).Makes (left.draws env))
    (rightMakes : (right.eval env).Makes (right.draws env)) :
    (do
      let function ← ofExcept (lookup env name)
      let a ← left.eval env
      let b ← right.eval env
      call function a b).Makes
      ((ofExcept (lookup env name)).countAfter fun function =>
        drawsOfTwo (left.eval env) (right.eval env) (left.draws env) (right.draws env)
          (drawsOfCall function)) := by
  have both := (makes_ofExcept (lookup env name)).bind fun function =>
    makes_two leftMakes rightMakes (call_makes function)
  simpa only [Nat.zero_add] using both

theorem eval_makes (env : Environment) (formula : Formula) :
    (formula.eval env).Makes (formula.draws env) := by
  induction formula with
  | int n => exact makes_pure _
  | float x => exact makes_pure _
  | name s => exact makes_ofExcept _
  | positive operand ih => exact ih.bind_ofExcept Operand.positive
  | negative operand ih => exact ih.bind_ofExcept Operand.negative
  | arithmetic op left right ihl ihr =>
    exact makes_two ihl ihr fun a b => makes_ofExcept (Operand.arithmetic op a b)
  | power base exponent ihb ihe => exact makes_call ihb ihe
  | random low high ihl ihh => exact makes_call ihl ihh

/-! ### What a formula reads -/

/-- The names that an evaluation looks up. -/
def reads : Formula → List String
  | .int _ | .float _ => []
  | .name s => [s]
  | .positive operand | .negative operand => operand.reads
  | .arithmetic _ left right => left.reads ++ right.reads
  | .power base exponent => powerName :: (base.reads ++ exponent.reads)
  | .random low high => drawName :: (low.reads ++ high.reads)

def hasPower : Formula → Bool
  | .int _ | .float _ | .name _ => false
  | .positive operand | .negative operand => operand.hasPower
  | .arithmetic _ left right | .random left right => left.hasPower || right.hasPower
  | .power _ _ => true

/-- Beside the names that are written there are those of the two functions. -/
theorem mem_reads {formula : Formula} {name : String} (read : name ∈ formula.reads) :
    name ∈ formula.names ∨ name = drawName ∨ name = powerName ∧ formula.hasPower = true := by
  induction formula with
  | int | float => cases read
  | name s => exact .inl read
  | positive operand ih | negative operand ih => exact ih read
  | arithmetic op left right ihl ihr | random left right ihl ihr =>
    simp only [reads, names, hasPower, List.mem_cons, List.mem_append, Bool.or_eq_true] at *
    tauto
  | power base exponent ihb ihe =>
    simp only [reads, names, hasPower, List.mem_cons, List.mem_append] at *
    tauto

/-- To a formula, environments with the same under all the names that it reads are the same. -/
theorem eval_congr {formula : Formula}
    (same : ∀ name ∈ formula.reads, env.lookup (.plain name) = env'.lookup (.plain name)) :
    formula.eval env = formula.eval env' ∧ formula.draws env = formula.draws env' := by
  have found {name : String} (read : env.lookup (.plain name) = env'.lookup (.plain name)) :
      lookup env name = lookup env' name := by
    rw [lookup, lookup, read]
  induction formula with
  | int | float => exact ⟨rfl, rfl⟩
  | name s => exact ⟨congrArg ofExcept (found (same s (List.mem_singleton_self s))), rfl⟩
  | positive operand ih | negative operand ih =>
    obtain ⟨value, count⟩ := ih same
    simp only [eval, draws, value, count, and_self]
  | arithmetic op left right ihl ihr =>
    obtain ⟨value, count⟩ := ihl fun name read => same name (List.mem_append_left _ read)
    obtain ⟨value', count'⟩ := ihr fun name read => same name (List.mem_append_right _ read)
    simp only [eval, draws, value, value', count, count', and_self]
  | power left right ihl ihr | random left right ihl ihr =>
    obtain ⟨function, operands⟩ := List.forall_mem_cons.mp same
    obtain ⟨value, count⟩ := ihl fun name read => operands name (List.mem_append_left _ read)
    obtain ⟨value', count'⟩ := ihr fun name read => operands name (List.mem_append_right _ read)
    simp only [eval, draws, found function, value, value', count, count', and_self]

/-- The environments have the same under each name in the formula, and the same function for draws.
-/
structure AgreeOn (formula : Formula) (env env' : Environment) : Prop where
  named : ∀ name ∈ formula.names, env.lookup (.plain name) = env'.lookup (.plain name)
  drawn : env.lookup (.plain drawName) = env'.lookup (.plain drawName)

theorem AgreeOn.eval_eq {formula : Formula} (agree : AgreeOn formula env env')
    (raised : formula.hasPower = true → env.lookup (.plain powerName) = env'.lookup (.plain powerName)) :
    formula.eval env = formula.eval env' ∧ formula.draws env = formula.draws env' := by
  refine eval_congr fun name read => ?_
  rcases mem_reads read with written | rfl | ⟨rfl, has⟩
  · exact agree.named name written
  · exact agree.drawn
  · exact raised has

/-! ### Powers -/

/-- With nothing in the way, a power is that of the two operands as floats. -/
theorem eval_power (free : env.lookup (.plain powerName) = none) (base exponent : Formula) :
    (Formula.power base exponent).eval env = (do
      let a ← base.eval env
      let b ← exponent.eval env
      Evaluation.ofExcept (Operand.floatPower a b)) := by
  have function : lookup env powerName = .ok .power := by
    rw [lookup, free]
    rfl
  rw [eval, function]
  rfl

end Formula

namespace Evaluation

variable {α β : Type} {w : Evaluation α} {f : α → Evaluation β}

/-- The evaluation ends in a fault, whatever is drawn. -/
def Fails (w : Evaluation α) : Prop := ∀ source, ∃ fault, (w.run source).1 = .error fault

theorem Fails.bind (first : w.Fails) (f : α → Evaluation β) : (w >>= f).Fails := by
  intro source
  obtain ⟨fault, ended⟩ := first source
  rw [Work.run_bind]
  split
  · rename_i a after ran
    rw [ran] at ended
    cases ended
  · exact ⟨_, rfl⟩

theorem fails_bind (w : Evaluation α) (second : ∀ a, (f a).Fails) : (w >>= f).Fails := by
  intro source
  rw [Work.run_bind]
  split
  · rename_i a after ran
    exact second a after
  · exact ⟨_, rfl⟩

theorem call_fails {function : Operand} (numeric : function.number?.isSome = true)
    (a b : Operand) : (call function a b).Fails := by
  cases function with
  | data d => exact fun source => ⟨_, rfl⟩
  | text | list | draw | power => cases numeric

end Evaluation

namespace Formula

open Evaluation

variable {env : Environment} {formula : Formula} {hidden : Operand}

/-- A number that has the name of the function for powers is called in its place. -/
theorem eval_fails (found : env.lookup (.plain powerName) = some hidden)
    (numeric : hidden.number?.isSome = true) (has : formula.hasPower = true) :
    (formula.eval env).Fails := by
  induction formula with
  | int | float | name => cases has
  | positive operand ih | negative operand ih => exact (ih has).bind _
  | arithmetic op left right ihl ihr =>
    rcases (Bool.or_eq_true _ _).mp has with has | has
    · exact (ihl has).bind _
    · exact fails_bind _ fun a => (ihr has).bind _
  | power base exponent =>
    have function : lookup env powerName = .ok hidden := by
      rw [lookup, found]
      rfl
    rw [eval, function]
    exact fails_bind (base.eval env) fun a => fails_bind (exponent.eval env) fun b =>
      call_fails numeric a b
  | random low high ihl ihh =>
    refine fails_bind _ fun function => ?_
    rcases (Bool.or_eq_true _ _).mp has with has | has
    · exact (ihl has).bind _
    · exact fails_bind _ fun a => (ihh has).bind _

/-! ### Texts -/

variable {text : Spelling} {source : Source}

theorem evaluate_congr
    (same : ∀ formula, parse text = .ok formula → formula.eval env = formula.eval env') :
    evaluate text env source = evaluate text env' source := by
  rw [evaluate, evaluate]
  cases parsed : parse text with
  | error fault => rfl
  | ok formula =>
    dsimp only
    rw [same formula parsed]

theorem evaluate_source (parsed : parse text = .ok formula) :
    (evaluate text env source).2 = source.skip (formula.draws env source) := by
  rw [← eval_makes env formula source, evaluate, parsed]
  dsimp only
  cases (formula.eval env).run source with
  | mk answer after => cases answer <;> rfl

theorem evaluate_of_fails (parsed : parse text = .ok formula) (fails : (formula.eval env).Fails) :
    ∃ fault, (evaluate text env source).1 = .error fault := by
  obtain ⟨fault, ended⟩ := fails source
  have ran : (formula.eval env).run source = (.error fault, _) := Prod.ext ended rfl
  rw [evaluate, parsed]
  dsimp only
  rw [ran]
  exact ⟨_, rfl⟩

end Formula

/-! ### Templates -/

namespace Template

open Formula

variable {t : Template} {entries : List (Spelling × Spelling)} {env env' : Environment}
  {source : Source}

/-- The name is written in a formula of the template. -/
def Names (t : Template) (name : Spelling) : Prop :=
  ∃ text ∈ t.formulas.values, ∃ formula, parse text = .ok formula ∧
    ∃ word ∈ formula.names, name = .plain word

def HasPower (t : Template) : Prop :=
  ∃ text ∈ t.formulas.values, ∃ formula, parse text = .ok formula ∧ formula.hasPower = true

theorem lookup_environment (node : Node) (name : Spelling) :
    (environment (some node)).lookup name =
      if name = .plain drawName then some .draw
      else (node.get? name).map fun v => .float v.toDouble := by
  unfold environment
  rw [List.lookup_cons]
  split
  · rename_i same
    rw [if_pos (eq_of_beq same)]
  · rename_i different
    rw [if_neg (beq_eq_false_iff_ne.mp different), Node.get?, Catalog.get?]
    dsimp only
    generalize node.attributes.entries = entries
    induction entries with
    | nil => rfl
    | cons e rest ih =>
      rw [List.map_cons, List.lookup_cons, ih, List.find?_cons]
      by_cases here : e.1 = name
      · simp [here]
      · simp [here, beq_false_of_ne (Ne.symm here)]

theorem evalFormulas_congr
    (same : ∀ entry ∈ entries, ∀ source, evaluate entry.2 env source = evaluate entry.2 env' source) :
    evalFormulas env entries source = evalFormulas env' entries source := by
  induction entries generalizing source with
  | nil => rfl
  | cons entry rest ih =>
    obtain ⟨key, text⟩ := entry
    have later := fun source => @ih source fun other member =>
      same other (List.mem_cons_of_mem _ member)
    simp only [evalFormulas, same _ List.mem_cons_self, later]

theorem evalFormulas_fails {entry : Spelling × Spelling} (member : entry ∈ entries)
    (fails : ∀ source, ∃ fault, (evaluate entry.2 env source).1 = .error fault) :
    ∃ fault, (evalFormulas env entries source).1 = .error fault := by
  induction entries generalizing source with
  | nil => cases member
  | cons first rest ih =>
    obtain ⟨key, text⟩ := first
    rw [evalFormulas]
    split
    · exact ⟨_, rfl⟩
    · rename_i x mid given
      split
      · exact ⟨_, rfl⟩
      · rcases List.mem_cons.mp member with rfl | member
        · obtain ⟨fault, ended⟩ := fails source
          rw [given] at ended
          cases ended
        · obtain ⟨fault, ended⟩ := @ih mid member
          have ran : evalFormulas env rest mid = (.error fault, _) := Prod.ext ended rfl
          rw [ran]
          exact ⟨_, rfl⟩

/-- Another attribute of the base is nothing to formulas in which its name is not written, unless it
has the name of the function for powers and there are some. -/
theorem eval_put {key : Spelling} (node : Node) (v : Scalar) (unnamed : ¬ t.Names key)
    (harmless : ¬ (key = powerName ∧ t.HasPower)) :
    t.eval (some (node.put key v)) source = t.eval (some node) source := by
  have same {name : Spelling} (different : key ≠ name) :
      (environment (some (node.put key v))).lookup name =
        (environment (some node)).lookup name := by
    rw [lookup_environment, lookup_environment, Node.put, Node.get?, Catalog.get?_put,
      if_neg different]
    rfl
  have agree : ∀ entry ∈ t.formulas.entries, ∀ source,
      evaluate entry.2 (environment (some (node.put key v))) source =
        evaluate entry.2 (environment (some node)) source := by
    intro entry member source
    have written := List.mem_map_of_mem (f := Prod.snd) member
    refine evaluate_congr fun formula parsed => ?_
    have agrees : AgreeOn formula (environment (some (node.put key v)))
        (environment (some node)) :=
      ⟨fun name named => same fun hit =>
        unnamed ⟨_, written, formula, parsed, name, named, hit⟩, rfl⟩
    refine (agrees.eval_eq fun has => same fun hit => ?_).1
    exact harmless ⟨hit, _, written, formula, parsed, has⟩
  rw [eval, eval, evalFormulas_congr agree]

/-- An attribute with the name of the function for powers leaves no node to a template with one. -/
theorem eval_put_powerName (node : Node) (v : Scalar) (has : t.HasPower) :
    ∃ fault, (t.eval (some (node.put powerName v)) source).1 = .error fault := by
  obtain ⟨_, written, formula, parsed, power⟩ := has
  obtain ⟨entry, member, rfl⟩ := List.mem_map.mp written
  have found : (environment (some (node.put powerName v))).lookup (.plain powerName) =
      some (.float v.toDouble) := by
    rw [lookup_environment, if_neg (by decide), Node.put, Node.get?, Catalog.get?_put, if_pos rfl]
    rfl
  have fails := eval_fails found rfl power
  obtain ⟨fault, ended⟩ := @evalFormulas_fails _ _ source _ member fun source =>
    evaluate_of_fails parsed fails
  have ran : evalFormulas (environment (some (node.put powerName v))) t.formulas.entries source =
      (.error fault, _) := Prod.ext ended rfl
  rw [eval, ran]
  exact ⟨fault, rfl⟩

end Template

/-! ### What attributes can change -/

open Formula

/-- A formula has the same value, with the same draws, in environments that agree on the names in it
and on the function for draws, unless it has powers and these find something else in the one than in
the other; where they find a number it has no value at all. So an attribute whose name is written in
no formula of a template is nothing to the node that is made, but that one with the name of the
function for powers leaves no node where there is a power. Otherwise powers are powers of floats. -/
theorem unnamed_hides_only_powers (source : Source) :
    (∀ text formula env env', parse text = .ok formula → AgreeOn formula env env' →
      (formula.hasPower = true → env.lookup (.plain powerName) = env'.lookup (.plain powerName)) →
      evaluate text env source = evaluate text env' source ∧
      formula.draws env source = formula.draws env' source ∧
      (evaluate text env source).2 = source.skip (formula.draws env source)) ∧
    (∀ text formula env hidden, parse text = .ok formula → formula.hasPower = true →
      env.lookup (.plain powerName) = some hidden → hidden.number?.isSome = true →
      ∃ fault, (evaluate text env source).1 = .error fault) ∧
    (∀ (t : Template) (node : Node) key v, ¬ t.Names key → ¬ (key = powerName ∧ t.HasPower) →
      t.eval (some (node.put key v)) source = t.eval (some node) source) ∧
    (∀ (t : Template) (node : Node) v, t.HasPower →
      ∃ fault, (t.eval (some (node.put powerName v)) source).1 = .error fault) ∧
    ∀ base exponent env, env.lookup (.plain powerName) = none →
      (Formula.power base exponent).eval env = (do
        let a ← base.eval env
        let b ← exponent.eval env
        Evaluation.ofExcept (Operand.floatPower a b)) := by
  refine ⟨fun text formula env env' parsed agree raised => ?_,
    fun text formula env hidden parsed has found numeric => ?_,
    fun t node key v unnamed harmless => Template.eval_put node v unnamed harmless,
    fun t node v has => Template.eval_put_powerName node v has,
    fun base exponent env free => eval_power free base exponent⟩
  · obtain ⟨value, count⟩ := agree.eval_eq raised
    refine ⟨evaluate_congr fun other known => ?_, congrFun count source, evaluate_source parsed⟩
    obtain rfl := Except.ok.inj (parsed.symm.trans known)
    exact value
  · exact evaluate_of_fails parsed (eval_fails found numeric has)

/-- A leaf whose size is a power of an attribute of its base. -/
def powerLeaf : Template := ⟨"leaf", .ofList [("size", "x**0")]⟩

def boundless : Node := ⟨"stem", .ofList [("x", .float (.infinite false))]⟩

theorem parse_powerLeaf : parse "x**0" = .ok (.power (.name "x") (.int 0)) := by
  have spells : Spells "x**0" (.binary .pow (.name "x") (.int 0)) :=
    .of_tokens "x**0".toList [.word "x", .sign "**", .number (.int 0)] rfl rfl rfl rfl
  exact spells.parse_ok_iff.mpr ⟨.power (.name _) (.int _), rfl, by decide⟩

theorem powerLeaf_unnamed {name : Spelling} (other : name ≠ .plain "x") :
    ¬ powerLeaf.Names name := by
  rintro ⟨text, written, formula, parsed, word, named, rfl⟩
  obtain rfl : text = "x**0" := List.mem_singleton.mp written
  obtain rfl := Except.ok.inj (parse_powerLeaf.symm.trans parsed)
  have named : word ∈ ["x"] := named
  exact other (congrArg Spelling.plain (List.mem_singleton.mp named))

theorem floatPower_zero (negative : Bool) :
    Operand.floatPower (.float (.infinite negative)) (.int 0) = .ok (.float Double.one) := by
  have zero : (Binary.ofInt 0 : Double) = Binary.zero false := by
    rw [Binary.ofInt, Int.zero_mul]
    rfl
  have base : Operand.toDouble (.float (.infinite negative)) = .ok (.infinite negative) := rfl
  have exponent : Operand.toDouble (.int 0) = .ok (Binary.zero false) := by
    show Operand.Number.toDouble (.int 0) = _
    rw [Operand.Number.toDouble, zero]
    rfl
  have raised : Binary.power (.infinite negative) (Binary.zero false) = .ok Double.one := by
    have isZero : (Binary.zero false : Double).isZero = true := rfl
    rw [Binary.power]
    · simp only [Binary.infinitePower, isZero, if_true]
    · exact fun sign other => by cases other
  simp only [Operand.floatPower, base, exponent, raised, bind, Except.bind]

theorem powerLeaf_eval (source : Source) :
    powerLeaf.eval (some boundless) source =
      (.ok ⟨"leaf", .ofList [("size", .float (.ofInt 1))]⟩, source) := by
  have formulas : powerLeaf.formulas.entries = [(.plain "size", .plain "x**0")] := rfl
  have value : ((Formula.power (.name "x") (.int 0)).eval
      (Template.environment (some boundless))).run source = (.ok (.float Double.one), source) := by
    have base : lookup (Template.environment (some boundless)) "x" =
        .ok (.float (.infinite false)) := rfl
    rw [eval_power rfl, eval, eval, base]
    have start (u : Operand) : Evaluation.ofExcept (.ok u) = pure u := rfl
    rw [start, pure_bind, pure_bind, Int.natCast_zero, floatPower_zero]
    rfl
  have single : Scalar.ofDouble Double.one = .ok (.float (.ofInt 1)) := by
    have same : (Double.one.convert .binary32 : Single) = .ofInt 1 := by decide +kernel
    have inside : (Binary.ofInt 1 : Single).isInfinite = false := by decide +kernel
    rw [Scalar.ofDouble, same]
    simp [inside]
  have number : toResult "x**0" (.float Double.one) = .ok Double.one := rfl
  simp only [Template.eval, formulas, Template.evalFormulas, evaluate, parse_powerLeaf, value,
    number, single]
  rfl

/-- The size is the same beside an attribute that is not written in it, and there is no leaf beside
one with the name of the function for powers. -/
theorem powerLeaf_keeps_size :
    (¬ powerLeaf.Names "y" ∧ powerLeaf.HasPower) ∧
    powerLeaf.eval (some (boundless.put "y" (.int 2))) .unseeded =
      (.ok ⟨"leaf", .ofList [("size", .float (.ofInt 1))]⟩, .unseeded) ∧
    ∃ fault, (powerLeaf.eval (some (boundless.put powerName (.int 2))) .unseeded).1 =
      .error fault := by
  obtain ⟨-, -, kept, lost, -⟩ := unnamed_hides_only_powers .unseeded
  have unnamed := @powerLeaf_unnamed "y" (by decide)
  have power : powerLeaf.HasPower := ⟨_, List.mem_singleton_self _, _, parse_powerLeaf, rfl⟩
  refine ⟨⟨unnamed, power⟩, ?_, lost powerLeaf boundless (.int 2) power⟩
  rw [kept powerLeaf boundless "y" (.int 2) unnamed fun both => absurd both.1 (by decide)]
  exact powerLeaf_eval .unseeded

/-- The attribute that takes the leaf away is not written in its formula. -/
theorem hiddenPower_leaves_no_node :
    ¬ powerLeaf.Names powerName ∧
    (powerLeaf.eval (some boundless) .unseeded).1 =
      .ok ⟨"leaf", .ofList [("size", .float (.ofInt 1))]⟩ ∧
    (powerLeaf.eval (some (boundless.put powerName (.int 2))) .unseeded).1 =
      .error (.evaluation (.notCallable "float") "x**0") := by
  have formulas : powerLeaf.formulas.entries = [(.plain "size", .plain "x**0")] := rfl
  refine ⟨powerLeaf_unnamed (by decide), by rw [powerLeaf_eval], ?_⟩
  rw [Template.eval, formulas, Template.evalFormulas, evaluate, parse_powerLeaf]
  rfl

end GrowthGrammar
