import GrowthGrammar.Formula.Evaluation
import GrowthGrammar.Proofs.Formula.Filling

/-!
Evaluation on plain data. Texts and lists that a formula puts together are kept as ropes until they
are asked for; its value and its draws are those of plain data all the same.
-/
namespace GrowthGrammar

open Rope (Same SameAnswer)

namespace Operand

variable {a b a' b' : Operand}

/-! ### Operations -/

/-- Answers that are the same as plain data, or have the same fault. -/
def SameValue {ε : Type} (first second : Except ε Operand) : Prop :=
  first.map plain = second.map plain

theorem sameValue_text {ε : Type} {first second : Except ε (Rope CodePoint)}
    (answers : SameAnswer first second) : SameValue (first.map text) (second.map text) := by
  have items : (first.map Rope.toList).map _ = (second.map Rope.toList).map _ :=
    congrArg (Except.map fun points => data (.text (.ofPoints points))) answers
  cases first <;> cases second <;> exact items

theorem sameValue_list {ε : Type} {first second : Except ε (Rope Data)}
    (answers : SameAnswer first second) : SameValue (first.map list) (second.map list) := by
  have items : (first.map Rope.toList).map _ = (second.map Rope.toList).map _ :=
    congrArg (Except.map fun items => data (.list items)) answers
  cases first <;> cases second <;> exact items

theorem SameValue.mapError {ε δ : Type} {first second : Except ε Operand}
    (answers : SameValue first second) (f : ε → δ) :
    SameValue (first.mapError f) (second.mapError f) := by
  rcases Work.same_of_map answers with ⟨fault, rfl, rfl⟩ | ⟨a, b, rfl, rfl, alike⟩
  · rfl
  · exact congrArg Except.ok alike

theorem repeated_same {α : Type} {r s : Rope α} (size : Nat) (same : Same r s)
    (alike : a.Alike b) : SameAnswer (repeated size r a) (repeated size s b) := by
  unfold repeated
  rw [same.length, alike.number?, alike.typeName]
  split
  · split
    · rfl
    · split
      · rfl
      · split
        · rfl
        · exact (same.repeated _).ok
  · rfl

theorem product_same (first : a.Alike a') (second : b.Alike b') :
    SameValue (product a b) (product a' b') := by
  unfold product
  rw [first.typeName, second.typeName]
  rcases first.kinds with ⟨r, s, text, text', -, -, same⟩ |
    ⟨r, s, none, none', list, list', same⟩ | ⟨none, none', other, other'⟩
  · rw [text, text']
    exact sameValue_text (repeated_same 1 same second)
  · rw [none, none', list, list']
    exact sameValue_list (repeated_same 8 same second)
  · rw [none, none', other, other']
    rcases second.kinds with ⟨r, s, text, text', -, -, same⟩ |
      ⟨r, s, none, none', list, list', same⟩ | ⟨none, none', other, other'⟩
    · rw [text, text']
      exact sameValue_text (repeated_same 1 same first)
    · rw [none, none', list, list']
      exact sameValue_list (repeated_same 8 same first)
    · rw [none, none', other, other']
      rfl

theorem concatenation_same (first : a.Alike a') (second : b.Alike b') :
    SameValue (concatenation a b) (concatenation a' b') := by
  unfold concatenation
  rw [first.typeName, second.typeName]
  rcases first.kinds with ⟨r, s, text, text', list, list', same⟩ |
    ⟨r, s, text, text', list, list', same⟩ | ⟨text, text', list, list'⟩
  · rw [text, text', list, list']
    rcases second.text? with ⟨none, none'⟩ | ⟨r', s', more, more', others⟩
    · rw [none, none']
      rfl
    · rw [more, more']
      exact sameValue_text (same.append others).ok
  · rw [text, text', list, list']
    rcases second.list? with ⟨none, none'⟩ | ⟨r', s', more, more', others⟩
    · rw [none, none']
      rfl
    · rw [more, more']
      exact sameValue_list (same.append others).ok
  · rw [text, text', list, list']
    rfl

theorem remainder_same (first : a.Alike a') (second : b.Alike b') :
    SameValue (remainder a b) (remainder a' b') := by
  unfold remainder
  rw [first.typeName, second.typeName]
  rcases first.text? with ⟨none, none'⟩ | ⟨r, s, some, some', same⟩
  · rw [none, none']
    rfl
  · rw [some, some']
    exact (sameValue_text (fill_same same second)).mapError EvaluationFault.filling

/-- What an operation gives depends on the items of texts and lists alone. -/
theorem arithmetic_same (op : Arithmetic) (first : a.Alike a') (second : b.Alike b') :
    SameValue (arithmetic op a b) (arithmetic op a' b') := by
  unfold arithmetic
  rw [first.number?, second.number?]
  split
  · rfl
  · cases op with
    | add => exact concatenation_same first second
    | mul => exact product_same first second
    | mod => exact remainder_same first second
    | sub | div | floorDiv =>
      unfold ofOthers
      rw [first.typeName, second.typeName]
      rfl

namespace Alike

theorem positive (alike : Alike a b) : a.positive = b.positive := by
  rw [Operand.positive, Operand.positive, alike.number?, alike.typeName]

theorem negative (alike : Alike a b) : a.negative = b.negative := by
  rw [Operand.negative, Operand.negative, alike.number?, alike.typeName]

theorem toDouble (alike : Alike a b) : a.toDouble = b.toDouble := by
  rw [Operand.toDouble, Operand.toDouble, alike.number?, alike.typeName]

theorem floatPower (first : Alike a a') (second : Alike b b') :
    a.floatPower b = a'.floatPower b' := by
  rw [Operand.floatPower, Operand.floatPower, first.toDouble, second.toDouble]

end Alike

end Operand

/-! ### Evaluation -/

namespace Evaluation

variable {α : Type} {w v : Evaluation Operand} {a a' b b' : Operand}

/-- Evaluations that make the same draws and come to values that are the same as plain data. -/
def Alike (w v : Evaluation Operand) : Prop :=
  ∀ source, Operand.SameValue (w.run source).1 (v.run source).1 ∧
    (w.run source).2 = (v.run source).2

theorem alike_ofExcept {answer answer' : Except EvaluationFault Operand}
    (same : Operand.SameValue answer answer') : Alike (ofExcept answer) (ofExcept answer') := by
  intro source
  rcases Work.same_of_map same with ⟨fault, rfl, rfl⟩ | ⟨a, b, rfl, rfl, alike⟩
  · exact ⟨same, rfl⟩
  · exact ⟨same, rfl⟩

theorem Alike.bind {f g : Operand → Evaluation Operand} (first : Alike w v)
    (second : ∀ a b, a.Alike b → Alike (f a) (g b)) : Alike (w >>= f) (v >>= g) := by
  intro source
  obtain ⟨values, after⟩ := first source
  rw [Work.run_bind, Work.run_bind]
  generalize w.run source = ended, v.run source = ended' at values after
  obtain ⟨answer, t⟩ := ended
  obtain ⟨answer', t'⟩ := ended'
  obtain rfl : t = t' := after
  rcases Work.same_of_map values with ⟨fault, rfl, rfl⟩ | ⟨a, b, rfl, rfl, alike⟩
  · exact ⟨rfl, rfl⟩
  · exact second a b alike t

/-- The first part is the same in both. -/
theorem alike_bind (w : Evaluation α) {f g : α → Evaluation Operand}
    (second : ∀ a, Alike (f a) (g a)) : Alike (w >>= f) (w >>= g) := by
  intro source
  rw [Work.run_bind, Work.run_bind]
  split
  · exact second _ _
  · exact ⟨rfl, rfl⟩

theorem uniform_alike (low : a.Alike a') (high : b.Alike b') :
    Alike (uniform a b) (uniform a' b') := by
  refine (alike_ofExcept (Operand.arithmetic_same .sub high low)).bind fun width width' widths => ?_
  refine alike_bind draw fun r => ?_
  refine (alike_ofExcept (Operand.arithmetic_same .mul widths rfl)).bind fun part part' parts => ?_
  exact alike_ofExcept (Operand.arithmetic_same .add low parts)

theorem call_alike {function function' : Operand} (functions : function.Alike function')
    (first : a.Alike a') (second : b.Alike b') :
    Alike (call function a b) (call function' a' b') := by
  have named := functions.typeName
  cases function with
  | draw =>
    cases function' with
    | draw => exact uniform_alike first second
    | data | text | list | power => cases functions
  | power =>
    cases function' with
    | power =>
      show Alike (ofExcept (Operand.floatPower a b)) (ofExcept (Operand.floatPower a' b'))
      rw [first.floatPower second]
      exact alike_ofExcept rfl
    | data | text | list | draw => cases functions
  | data | text | list =>
    cases function' with
    | draw | power => cases functions
    | data | text | list =>
      show Alike (throw (.notCallable _)) (throw (.notCallable _))
      rw [named]
      exact fun source => ⟨rfl, rfl⟩

end Evaluation

namespace Formula

open Evaluation

/-- The environment with all texts and lists as plain data. -/
def plainly (env : Environment) : Environment := env.map fun (key, a) => (key, a.plain)

theorem lookup_plainly (env : Environment) (key : Spelling) :
    (plainly env).lookup key = (env.lookup key).map Operand.plain := by
  induction env with
  | nil => rfl
  | cons e rest ih =>
    show List.lookup key ((e.1, e.2.plain) :: plainly rest) = _
    rw [List.lookup_cons, List.lookup_cons]
    split
    · rfl
    · exact ih

theorem lookup_same (env : Environment) (name : String) :
    Operand.SameValue (lookup (plainly env) name) (lookup env name) := by
  unfold lookup
  rw [lookup_plainly]
  split
  · rfl
  · cases env.lookup (.plain name) with
    | none => rfl
    | some a => exact congrArg Except.ok a.plain_plain

theorem eval_alike (env : Environment) (formula : Formula) :
    Alike (formula.eval (plainly env)) (formula.eval env) := by
  have function (name : String) := alike_ofExcept (lookup_same env name)
  induction formula with
  | int n => exact fun source => ⟨rfl, rfl⟩
  | float x => exact fun source => ⟨rfl, rfl⟩
  | name s => exact function s
  | positive operand ih =>
    refine ih.bind fun a b alike => ?_
    rw [alike.positive]
    exact alike_ofExcept rfl
  | negative operand ih =>
    refine ih.bind fun a b alike => ?_
    rw [alike.negative]
    exact alike_ofExcept rfl
  | arithmetic op left right ihl ihr =>
    refine ihl.bind fun a a' first => ihr.bind fun b b' second => ?_
    exact alike_ofExcept (Operand.arithmetic_same op first second)
  | power left right ihl ihr | random left right ihl ihr =>
    refine (function _).bind fun f f' functions => ?_
    refine ihl.bind fun a a' first => ihr.bind fun b b' second => ?_
    exact call_alike functions first second

theorem toResult_plain (text : Spelling) (a : Operand) :
    toResult text a.plain = toResult text a := by
  cases a <;> rfl

/-- A formula has the same value and makes the same draws, whether the texts and lists in its
environment are plain data or were put together. -/
theorem evaluate_plainly (text : Spelling) (env : Environment) (source : Source) :
    evaluate text (plainly env) source = evaluate text env source := by
  unfold evaluate
  cases parse text with
  | error fault => rfl
  | ok formula =>
    obtain ⟨values, after⟩ := eval_alike env formula source
    dsimp only
    generalize (formula.eval (plainly env)).run source = ended,
      (formula.eval env).run source = ended' at values after
    obtain ⟨answer, t⟩ := ended
    obtain ⟨answer', t'⟩ := ended'
    obtain rfl : t = t' := after
    rcases Work.same_of_map values with ⟨fault, rfl, rfl⟩ | ⟨a, b, rfl, rfl, alike⟩
    · rfl
    · show (toResult text a, t) = (toResult text b, t)
      rw [← toResult_plain, alike, toResult_plain]

end Formula

end GrowthGrammar
