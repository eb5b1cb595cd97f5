import GrowthGrammar.Formula.Filling
import GrowthGrammar.Proofs.Work
import Mathlib.Data.List.TakeWhile

/-!
Texts and lists that formulas put together. What is asked of them has the same answer for all ropes
with the same items, however they were joined, and for the plain datum with these items.
-/
namespace GrowthGrammar

/-! ### Ropes -/

namespace Rope

variable {α : Type} {r s r' s' : Rope α}

/-- Nothing after an item that fails the test is looked at. -/
theorem takeWhile_append_of_rest {test : α → Bool} {xs : List α} (rest : xs.dropWhile test ≠ [])
    (ys : List α) : (xs ++ ys).takeWhile test = xs.takeWhile test := by
  have whole := congrArg List.length (List.takeWhile_append_dropWhile (p := test) (l := xs))
  have more := List.length_pos_iff.mpr rest
  rw [List.length_append] at whole
  rw [List.takeWhile_append, if_neg (by omega)]

theorem dropWhile_append_of_rest {test : α → Bool} {xs : List α} (rest : xs.dropWhile test ≠ [])
    (ys : List α) : (xs ++ ys).dropWhile test = xs.dropWhile test ++ ys := by
  rw [List.dropWhile_append, if_neg (mt List.isEmpty_iff.mp rest)]

/-- A repetition is opened at its first round only, which is enough: if all items there pass the
test, so do those of the others. -/
theorem toList_span (test : α → Bool) (r : Rope α) :
    (r.span test).1.toList = r.toList.takeWhile test ∧
      (r.span test).2.toList = r.toList.dropWhile test := by
  induction r with
  | piece items => exact ⟨rfl, rfl⟩
  | joined left right ihl ihr =>
    obtain ⟨start, rest⟩ := ihl
    have ended := isEmpty_iff (left.span test).2
    rw [rest] at ended
    simp only [span, toList]
    split
    · next done =>
      have all := List.dropWhile_eq_nil_iff.mp (ended.mp done)
      rw [List.takeWhile_append_of_pos all, List.dropWhile_append_of_pos all]
      simp only [toList, start, List.takeWhile_eq_self_iff.mpr all, ihr, and_self]
    · next more =>
      have stops := mt ended.mpr more
      rw [takeWhile_append_of_rest stops, dropWhile_append_of_rest stops]
      simp only [toList, start, rest, and_self]
  | repeated rope times ih =>
    cases times with
    | zero => exact ⟨rfl, rfl⟩
    | succ times =>
      obtain ⟨start, rest⟩ := ih
      have ended := isEmpty_iff (rope.span test).2
      rw [rest] at ended
      simp only [span]
      split
      · next done =>
        have all : ∀ x ∈ (Rope.repeated rope (times + 1)).toList, test x = true := by
          intro x member
          obtain ⟨round, among, member⟩ := List.mem_flatten.mp member
          rw [List.eq_of_mem_replicate among] at member
          exact List.dropWhile_eq_nil_iff.mp (ended.mp done) x member
        exact ⟨(List.takeWhile_eq_self_iff.mpr all).symm,
          (List.dropWhile_eq_nil_iff.mpr all).symm⟩
      · next more =>
        have stops := mt ended.mpr more
        simp only [toList, List.replicate_succ, List.flatten_cons]
        rw [takeWhile_append_of_rest stops, dropWhile_append_of_rest stops]
        simp only [start, rest, and_self]

/-- Ropes that hold the same items. -/
def Same (r s : Rope α) : Prop := r.toList = s.toList

theorem Same.refl (r : Rope α) : Same r r := rfl

theorem Same.length (same : Same r s) : r.length = s.length := by
  rw [← length_toList, same, length_toList]

theorem Same.append (first : Same r s) (second : Same r' s') : Same (r ++ r') (s ++ s') := by
  rw [Same, toList_append, toList_append, first, second]

theorem Same.repeated (same : Same r s) (times : Nat) :
    Same (.repeated r times) (.repeated s times) := by
  rw [Same, toList, toList, same]

theorem Same.take (same : Same r s) (n : Nat) : Same (r.take n) (s.take n) := by
  rw [Same, toList_take, toList_take, same]

theorem Same.span (same : Same r s) (test : α → Bool) :
    Same (r.span test).1 (s.span test).1 ∧ Same (r.span test).2 (s.span test).2 := by
  obtain ⟨start, rest⟩ := toList_span test r
  obtain ⟨start', rest'⟩ := toList_span test s
  exact ⟨by rw [Same, start, start', same], by rw [Same, rest, rest', same]⟩

/-- The same is taken from both of two ropes, and the same is left, or nothing is taken. -/
def SameRest {β : Type} (first second : Option (β × Rope α)) : Prop :=
  (first = none ∧ second = none) ∨
    ∃ b r s, first = some (b, r) ∧ second = some (b, s) ∧ Same r s

theorem SameRest.map {β γ : Type} {first second : Option (β × Rope α)}
    (rests : SameRest first second) (f : β → γ) :
    SameRest (first.map fun (b, rest) => (f b, rest))
      (second.map fun (b, rest) => (f b, rest)) := by
  rcases rests with ⟨rfl, rfl⟩ | ⟨b, r, s, rfl, rfl, same⟩
  · exact .inl ⟨rfl, rfl⟩
  · exact .inr ⟨f b, r, s, rfl, rfl, same⟩

theorem Same.next? (same : Same r s) : SameRest r.next? s.next? := by
  cases first : r.next? with
  | none =>
    have empty := (next?_eq_none_iff r).mp first
    exact .inl ⟨rfl, (next?_eq_none_iff s).mpr (same.symm.trans empty)⟩
  | some found =>
    obtain ⟨x, r'⟩ := found
    have items := toList_eq_of_next? first
    cases second : s.next? with
    | none =>
      have empty := same.trans ((next?_eq_none_iff s).mp second)
      cases items.symm.trans empty
    | some other =>
      obtain ⟨y, s'⟩ := other
      have items' := toList_eq_of_next? second
      obtain ⟨rfl, rest⟩ := List.cons.inj (items.symm.trans (same.trans items'))
      exact .inr ⟨x, r', s', rfl, rfl, rest⟩

/-- Both ropes start with a mark, or neither does. -/
theorem Same.marked [DecidableEq α] (same : Same r s) (mark : α) :
    (∃ r' s', r.next? = some (mark, r') ∧ s.next? = some (mark, s') ∧ Same r' s') ∨
      (∀ rest, r.next? ≠ some (mark, rest)) ∧ ∀ rest, s.next? ≠ some (mark, rest) := by
  rcases same.next? with ⟨none, none'⟩ | ⟨x, r', s', some, some', rest⟩
  · exact .inr ⟨fun _ there => (nomatch none.symm.trans there),
      fun _ there => (nomatch none'.symm.trans there)⟩
  · by_cases starts : x = mark
    · exact .inl ⟨r', s', starts ▸ some, starts ▸ some', rest⟩
    · exact .inr ⟨fun _ there => starts (by cases some.symm.trans there; rfl),
        fun _ there => starts (by cases some'.symm.trans there; rfl)⟩

theorem concat_same {ropes others : List (Rope α)} (same : ropes.map toList = others.map toList) :
    Same (concat ropes) (concat others) := by
  rw [Same, toList_concat, toList_concat, List.flatMap_def, List.flatMap_def, same]

/-- Answers with ropes of the same items, or with the same fault. -/
def SameAnswer {ε : Type} (first second : Except ε (Rope α)) : Prop :=
  first.map toList = second.map toList

theorem Same.ok {ε : Type} (same : Same r s) : SameAnswer (.ok r : Except ε (Rope α)) (.ok s) :=
  congrArg Except.ok same

theorem SameAnswer.refl {ε : Type} (answer : Except ε (Rope α)) : SameAnswer answer answer := rfl

theorem SameAnswer.map {ε β : Type} {first second : Except ε (Rope α)} {f : Rope α → Rope β}
    (answers : SameAnswer first second) (keeps : ∀ {r s}, Same r s → Same (f r) (f s)) :
    SameAnswer (first.map f) (second.map f) := by
  rcases Work.same_of_map answers with ⟨fault, rfl, rfl⟩ | ⟨r, s, rfl, rfl, same⟩
  · rfl
  · exact congrArg Except.ok (keeps same)

end Rope

open Rope (Same SameAnswer SameRest)

/-! ### Operands -/

namespace Operand

/-- The operand as plain data, if it is any. -/
def plain : Operand → Operand
  | .text points => .data (.text (.ofPoints points.toList))
  | .list items => .data (.list items.toList)
  | a => a

variable {a b a' b' : Operand}

@[simp]
theorem plain_plain (a : Operand) : a.plain.plain = a.plain := by
  cases a <;> rfl

/-- Operands that are the same as plain data. -/
def Alike (a b : Operand) : Prop := a.plain = b.plain

theorem typeName_plain (a : Operand) : a.plain.typeName = a.typeName := by
  cases a <;> rfl

theorem number?_plain (a : Operand) : a.plain.number? = a.number? := by
  cases a <;> rfl

theorem text?_plain (a : Operand) : a.plain.text?.map Rope.toList = a.text?.map Rope.toList := by
  cases a with
  | text points => exact congrArg some (Spelling.points_ofPoints points.toList)
  | _ => rfl

theorem list?_plain (a : Operand) : a.plain.list?.map Rope.toList = a.list?.map Rope.toList := by
  cases a <;> rfl

theorem list?_of_text? {r : Rope CodePoint} (text : a.text? = some r) : a.list? = none := by
  cases a with
  | data d => cases d <;> first | rfl | cases text
  | text => rfl
  | list | draw | power => cases text

/-- What was put together is written as the plain datum is. -/
theorem literal_eq_of_plain {d : Data} (plain : a.plain = .data d) :
    a.literal = d.literal.mapError .number := by
  cases a with
  | data =>
    cases plain
    cases d with
    | text s => exact congrArg Except.ok (Spelling.quoted_eq s).symm
    | _ => rfl
  | text points =>
    cases plain
    show Except.ok (CodePoint.quoted points.toList) = .ok (Spelling.quoted _)
    rw [Spelling.quoted_eq, Spelling.points_ofPoints]
  | list items =>
    cases plain
    rfl
  | draw => cases plain
  | power => cases plain

namespace Alike

theorem typeName (alike : Alike a b) : a.typeName = b.typeName := by
  rw [← typeName_plain, alike, typeName_plain]

theorem number? (alike : Alike a b) : a.number? = b.number? := by
  rw [← number?_plain, alike, number?_plain]

theorem literal (alike : Alike a b) : a.literal = b.literal := by
  have known (a : Operand) : a.plain.literal = a.literal := by
    cases plain : a.plain with
    | data d => rw [literal_eq_of_plain plain, literal_eq_of_plain (a := .data d) rfl]
    | text => cases a <;> cases plain
    | list => cases a <;> cases plain
    | draw => cases a <;> cases plain; rfl
    | power => cases a <;> cases plain; rfl
  rw [← known, alike, known]

theorem text? (alike : Alike a b) : (a.text? = none ∧ b.text? = none) ∨
    ∃ r s, a.text? = some r ∧ b.text? = some s ∧ Same r s :=
  Work.some_of_map (by rw [← text?_plain, alike, text?_plain])

theorem list? (alike : Alike a b) : (a.list? = none ∧ b.list? = none) ∨
    ∃ r s, a.list? = some r ∧ b.list? = some s ∧ Same r s :=
  Work.some_of_map (by rw [← list?_plain, alike, list?_plain])

/-- Both operands are texts, or both are lists, or neither is one of these. -/
theorem kinds (alike : Alike a b) :
    (∃ r s, a.text? = some r ∧ b.text? = some s ∧ a.list? = none ∧ b.list? = none ∧ Same r s) ∨
    (∃ r s, a.text? = none ∧ b.text? = none ∧ a.list? = some r ∧ b.list? = some s ∧ Same r s) ∨
    (a.text? = none ∧ b.text? = none ∧ a.list? = none ∧ b.list? = none) := by
  rcases alike.text? with ⟨none, none'⟩ | ⟨r, s, some, some', same⟩
  · rcases alike.list? with ⟨other, other'⟩ | ⟨r, s, some, some', same⟩
    · exact .inr (.inr ⟨none, none', other, other'⟩)
    · exact .inr (.inl ⟨r, s, none, none', some, some', same⟩)
  · exact .inl ⟨r, s, some, some', list?_of_text? some, list?_of_text? some', same⟩

theorem toText (alike : Alike a b) : SameAnswer a.toText b.toText := by
  unfold Operand.toText
  rcases alike.text? with ⟨none, none'⟩ | ⟨r, s, some, some', same⟩
  · rw [none, none', alike.literal]
    exact SameAnswer.refl _
  · rw [some, some']
    exact congrArg Except.ok same

theorem whole? (alike : Alike a b) : a.whole? = b.whole? := by
  rw [Operand.whole?, Operand.whole?, alike.number?]

theorem nearestFloat (alike : Alike a b) : a.nearestFloat = b.nearestFloat := by
  rw [Operand.nearestFloat, Operand.nearestFloat, alike.number?, alike.typeName]

end Alike

end Operand

/-! ### Placeholders -/

namespace Placeholder

variable {r s : Rope CodePoint} {a b : Operand}

theorem padded_same (p : Placeholder) (zeros : Bool) (lead : List Char) (same : Same r s) :
    Same (p.padded zeros lead r) (p.padded zeros lead s) := by
  unfold padded
  rw [same.length]
  dsimp only
  split
  · exact ((Same.refl _).append same).append (.refl _)
  · split
    · exact (Same.refl _).append same
    · exact (Same.refl _).append same

theorem ofText_same (p : Placeholder) (same : Same r s) : Same (p.ofText r) (p.ofText s) := by
  unfold ofText
  split
  · exact p.padded_same _ _ (same.take _)
  · exact p.padded_same _ _ same

theorem ofCharacter_same (p : Placeholder) (alike : a.Alike b) :
    SameAnswer (p.ofCharacter a) (p.ofCharacter b) := by
  unfold ofCharacter
  rw [alike.number?]
  rcases alike.text? with ⟨none, none'⟩ | ⟨r, s, some, some', same⟩
  · rw [none, none']
    exact SameAnswer.refl _
  · rw [some, some']
    dsimp only
    rw [same.length]
    split
    · exact congrArg Except.ok (p.padded_same _ _ same)
    · rfl

/-- A letter means nothing to both operands, or they are written in the same way. -/
theorem write?_same (p : Placeholder) (letter : Char) (alike : a.Alike b) :
    (p.write? letter a).map (·.map Rope.toList) = (p.write? letter b).map (·.map Rope.toList) := by
  unfold write?
  rw [alike.literal, alike.whole?, alike.typeName, alike.number?, alike.nearestFloat]
  split
  · exact congrArg some (alike.toText.map fun same => p.ofText_same same)
  · split
    · rfl
    · split
      · exact congrArg some (p.ofCharacter_same alike)
      · rfl

end Placeholder

end GrowthGrammar
