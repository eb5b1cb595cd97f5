import GrowthGrammar.Proofs.Formula.Ropes

/-!
Filling placeholders. The texts that are put in their place, and what is said where they cannot be
filled, depend on the items of the texts and lists alone.
-/
namespace GrowthGrammar

open Rope (Same SameAnswer SameRest)

def Supply.plain (supply : Supply) : Supply :=
  ⟨supply.next?.map Operand.plain, supply.keyed?.map Operand.plain⟩

namespace Filling

variable {α β : Type} {R : α → α → Prop} {T : β → β → Prop} {w v : Filling α}
  {r s : Rope CodePoint} {supply other : Supply}

/-- Fillings that come to the same end with supplies that are the same as plain data. -/
def Alike (R : α → α → Prop) (w v : Filling α) : Prop :=
  ∀ supply other : Supply, supply.plain = other.plain →
    (∃ fault, w.run supply = .error fault ∧ v.run other = .error fault) ∨
    ∃ a b supply' other', w.run supply = .ok (a, supply') ∧ v.run other = .ok (b, other') ∧
      R a b ∧ supply'.plain = other'.plain

theorem alike_pure {a b : α} (related : R a b) : Alike R (pure a) (pure b) :=
  fun supply other same => .inr ⟨a, b, supply, other, rfl, rfl, related, same⟩

theorem alike_throw (fault : FillingFault) : Alike R (throw fault) (throw fault) :=
  fun _ _ _ => .inl ⟨fault, rfl, rfl⟩

theorem alike_throw_bind (fault : FillingFault) (f g : α → Filling β) :
    Alike T (throw fault >>= f) (throw fault >>= g) := fun _ _ _ => .inl ⟨fault, rfl, rfl⟩

theorem Alike.bind {f g : α → Filling β} (first : Alike R w v)
    (second : ∀ a b, R a b → Alike T (f a) (g b)) : Alike T (w >>= f) (v >>= g) := by
  intro supply other same
  rcases first supply other same with ⟨fault, failed, failed'⟩ |
    ⟨a, b, supply', other', done, done', related, same'⟩
  · refine .inl ⟨fault, ?_, ?_⟩
    · rw [StateT.run_bind, failed]
      rfl
    · rw [StateT.run_bind, failed']
      rfl
  · rw [StateT.run_bind, StateT.run_bind, done, done']
    exact second a b related supply' other' same'

theorem alike_get : Alike (fun supply other => supply.plain = other.plain) get get :=
  fun supply other same => .inr ⟨supply, other, supply, other, rfl, rfl, same, same⟩

theorem alike_set (same : supply.plain = other.plain) :
    Alike (fun _ _ => True) (set supply) (set other) :=
  fun _ _ _ => .inr ⟨⟨⟩, ⟨⟩, supply, other, rfl, rfl, trivial, same⟩

/-- A part that is made without the supply. -/
theorem alike_part {part part' : Except FillingFault (Rope CodePoint)}
    (same : SameAnswer part part') : Alike Same (liftM part) (liftM part') := by
  intro supply other keeps
  rcases Work.same_of_map same with ⟨fault, rfl, rfl⟩ | ⟨r, s, rfl, rfl, parts⟩
  · exact .inl ⟨fault, rfl, rfl⟩
  · exact .inr ⟨r, s, supply, other, rfl, rfl, parts, keeps⟩

theorem select_plain (supply : Supply) (key : List CodePoint) :
    (supply.plain.select key).map Supply.plain = (supply.select key).map Supply.plain := by
  obtain ⟨next?, keyed?⟩ := supply
  cases keyed? with
  | none => rfl
  | some a =>
    cases a with
    | data d =>
      cases d with
      | map entries =>
        simp only [Supply.select, Supply.plain, Option.map_some, Operand.plain]
      | _ => rfl
    | _ => rfl

theorem alike_select (same : supply.plain = other.plain) (key : List CodePoint) :
    Alike (fun supply other => supply.plain = other.plain) (liftM (supply.select key))
      (liftM (other.select key)) := by
  have selected : (supply.select key).map Supply.plain = (other.select key).map Supply.plain := by
    rw [← select_plain, same, select_plain]
  intro start start' keeps
  rcases Work.same_of_map selected with ⟨fault, failed, failed'⟩ | ⟨next, next', done, done', same⟩
  · rw [failed, failed']
    exact .inl ⟨fault, rfl, rfl⟩
  · rw [done, done']
    exact .inr ⟨next, next', start, start', rfl, rfl, same, keeps⟩

theorem keyed?_isNone (same : supply.plain = other.plain) :
    supply.keyed?.isNone = other.keyed?.isNone := by
  have keyed := congrArg (fun supply => supply.keyed?.isNone) same
  simpa only [Supply.plain, Option.isNone_map] using keyed

theorem take_alike : Alike Operand.Alike take take := by
  intro supply other same
  have next := congrArg Supply.next? same
  have keyed := congrArg Supply.keyed? same
  obtain ⟨next?, keyed?⟩ := supply
  obtain ⟨next?', keyed?'⟩ := other
  rcases Work.some_of_map next with ⟨rfl, rfl⟩ | ⟨a, b, rfl, rfl, alike⟩
  · exact .inl ⟨.tooFew, rfl, rfl⟩
  · refine .inr ⟨a, b, ⟨none, keyed?⟩, ⟨none, keyed?'⟩, rfl, rfl, alike, ?_⟩
    exact congrArg (Supply.mk none) keyed

theorem key?_same (fuel depth : Nat) (same : Same r s) :
    SameRest (key? fuel depth r) (key? fuel depth s) := by
  induction fuel generalizing depth r s with
  | zero => exact .inl ⟨rfl, rfl⟩
  | succ fuel ih =>
    unfold key?
    rcases same.next? with ⟨none, none'⟩ | ⟨point, r', s', some, some', same⟩
    · rw [none, none']
      exact .inl ⟨rfl, rfl⟩
    · rw [some, some']
      have opened (depth : Nat) := (ih depth same).map (point :: ·)
      simp only [Option.bind_eq_bind, Option.bind_some]
      split
      · split
        · exact .inr ⟨[], r', s', rfl, rfl, same⟩
        · exact opened _
      · exact opened _

theorem readKey_of_absent (size : Nat) (absent : ∀ rest, r.next? ≠ some (.char '(', rest)) :
    readKey size r = pure r := by
  unfold readKey
  split
  · exact absurd ‹_› (absent _)
  · rfl

theorem readKey_alike (size : Nat) (same : Same r s) :
    Alike Same (readKey size r) (readKey size s) := by
  rcases same.marked (.char '(') with ⟨r', s', first, first', rest⟩ | ⟨absent, absent'⟩
  · rw [readKey, readKey, first, first']
    refine alike_get.bind fun supply other keeps => ?_
    dsimp only
    rw [keyed?_isNone keeps]
    split
    · exact alike_throw_bind _ _ _
    · rcases key?_same size 0 rest with ⟨none, none'⟩ | ⟨key, r, s, some, some', same⟩
      · rw [none, none']
        exact alike_throw _
      · rw [some, some']
        refine alike_get.bind fun supply other keeps => ?_
        refine (alike_select keeps key).bind fun supply other keeps => ?_
        exact (alike_set keeps).bind fun _ _ _ => alike_pure same
  · rw [readKey_of_absent size absent, readKey_of_absent size absent']
    exact alike_pure same

theorem takeCount_alike : Alike Eq takeCount takeCount := by
  refine take_alike.bind fun a b alike => ?_
  rw [alike.number?]
  split
  · exact alike_pure rfl
  · exact alike_throw _

theorem leadingNumber_same (same : Same r s) : (leadingNumber r).1 = (leadingNumber s).1 ∧
    Same (leadingNumber r).2 (leadingNumber s).2 := by
  obtain ⟨digits, rest⟩ := same.span (CodePoint.isChar Char.isDigit)
  refine ⟨?_, rest⟩
  show Numeral.ofDigits _ = Numeral.ofDigits _
  rw [digits]

/-- The placeholder is the same after both texts, and so is the rest. -/
def Further (x y : Placeholder × Rope CodePoint) : Prop := x.1 = y.1 ∧ Same x.2 y.2

theorem readWidth_of_absent (p : Placeholder)
    (absent : ∀ rest, r.next? ≠ some (.char '*', rest)) :
    readWidth p r = (do
      if widthLimit ≤ (leadingNumber r).1 then throw .widthTooBig
      return ({ p with width := (leadingNumber r).1 }, (leadingNumber r).2)) := by
  unfold readWidth
  split
  · exact absurd ‹_› (absent _)
  · rfl

theorem readWidth_alike (p : Placeholder) (same : Same r s) :
    Alike Further (readWidth p r) (readWidth p s) := by
  rcases same.marked (.char '*') with ⟨r', s', first, first', rest⟩ | ⟨absent, absent'⟩
  · rw [readWidth, readWidth, first, first']
    refine takeCount_alike.bind fun n m number => ?_
    subst number
    split
    · exact alike_throw_bind _ _ _
    · exact alike_pure ⟨rfl, rest⟩
  · obtain ⟨number, rest⟩ := leadingNumber_same same
    rw [readWidth_of_absent p absent, readWidth_of_absent p absent', number]
    split
    · exact alike_throw_bind _ _ _
    · exact alike_pure ⟨rfl, rest⟩

theorem readPrecision_of_absent (p : Placeholder)
    (absent : ∀ rest, r.next? ≠ some (.char '.', rest)) : readPrecision p r = pure (p, r) := by
  unfold readPrecision
  split
  · exact absurd ‹_› (absent _)
  · rfl

theorem readPrecision_of_star (p : Placeholder) {rest more : Rope CodePoint}
    (first : r.next? = some (.char '.', rest)) (second : rest.next? = some (.char '*', more)) :
    readPrecision p r = (do
      let n ← takeCount
      if (precisionLimit : Int) ≤ n || n < -(precisionLimit : Int) then throw .precisionOutside
      return ({ p with precision? := some n.toNat }, more)) := by
  unfold readPrecision
  split
  · rename_i found
    cases first.symm.trans found
    rw [second]
    rfl
  · rename_i other
    exact absurd first (other rest)

theorem readPrecision_of_number (p : Placeholder) {rest : Rope CodePoint}
    (first : r.next? = some (.char '.', rest))
    (absent : ∀ more, rest.next? ≠ some (.char '*', more)) :
    readPrecision p r = (do
      if precisionLimit ≤ (leadingNumber rest).1 then throw .precisionTooBig
      return ({ p with precision? := some (leadingNumber rest).1 }, (leadingNumber rest).2)) := by
  unfold readPrecision
  split
  · rename_i found
    cases first.symm.trans found
    split
    · exact absurd ‹_› (absent _)
    · rfl
  · rename_i other
    exact absurd first (other rest)

theorem readPrecision_alike (p : Placeholder) (same : Same r s) :
    Alike Further (readPrecision p r) (readPrecision p s) := by
  rcases same.marked (.char '.') with ⟨r', s', first, first', rest⟩ | ⟨absent, absent'⟩
  · rcases rest.marked (.char '*') with ⟨r, s, second, second', rest⟩ | ⟨absent, absent'⟩
    · rw [readPrecision_of_star p first second, readPrecision_of_star p first' second']
      refine takeCount_alike.bind fun n m number => ?_
      subst number
      split
      · exact alike_throw_bind _ _ _
      · exact alike_pure ⟨rfl, rest⟩
    · obtain ⟨number, rest⟩ := leadingNumber_same rest
      rw [readPrecision_of_number p first absent, readPrecision_of_number p first' absent', number]
      split
      · exact alike_throw_bind _ _ _
      · exact alike_pure ⟨rfl, rest⟩
  · rw [readPrecision_of_absent p absent, readPrecision_of_absent p absent']
    exact alike_pure ⟨rfl, same⟩

theorem skipSize_same (same : Same r s) : Same (skipSize r) (skipSize s) := by
  unfold skipSize
  rcases same.next? with ⟨none, none'⟩ | ⟨letter, r', s', some, some', rest⟩
  · rw [none, none']
    exact same
  · rw [some, some']
    dsimp only
    split
    · exact rest
    · exact same

/-- A part of the whole text, and the rest. -/
def FurtherPart (x y : Rope CodePoint × Rope CodePoint) : Prop := Same x.1 y.1 ∧ Same x.2 y.2

theorem fillNext_alike (size : Nat) (same : Same r s) :
    Alike FurtherPart (fillNext size r) (fillNext size s) := by
  unfold fillNext
  refine (readKey_alike size same).bind fun r s same => ?_
  obtain ⟨flags, rest⟩ := same.span Placeholder.isFlag
  dsimp only
  rw [flags]
  refine (readWidth_alike _ rest).bind fun x y further => ?_
  obtain ⟨p, r⟩ := x
  obtain ⟨q, s⟩ := y
  obtain ⟨rfl, same⟩ := further
  refine (readPrecision_alike p same).bind fun x y further => ?_
  obtain ⟨p, r⟩ := x
  obtain ⟨q, s⟩ := y
  obtain ⟨rfl, same⟩ := further
  dsimp only
  rcases (skipSize_same same).next? with ⟨none, none'⟩ | ⟨letter, r, s, some, some', same⟩
  · rw [none, none']
    exact alike_throw _
  · rw [some, some']
    dsimp only
    refine take_alike.bind fun a b alike => ?_
    rw [same.length]
    generalize (if Operand.maxBytes < p.width then { p with width := 0 } else p) = q
    have written : (letter.char?.bind fun c => q.write? c a).map (·.map Rope.toList) =
        (letter.char?.bind fun c => q.write? c b).map (·.map Rope.toList) := by
      cases letter.char? with
      | none => rfl
      | some c => exact q.write?_same c alike
    rcases Work.some_of_map written with ⟨none, none'⟩ | ⟨part, part', some, some', parts⟩
    · rw [none, none']
      exact alike_throw _
    · rw [some, some']
      refine (alike_part parts).bind fun r' s' parts => ?_
      split
      · exact alike_throw_bind _ _ _
      · exact alike_pure ⟨parts, same⟩

section Step

variable {size fuel : Nat} {done : List (Rope CodePoint)} {mark : CodePoint}
  {text rest more : Rope CodePoint}
  (found : (text.span (· != .char '%')).2.next? = some (mark, rest))

include found

theorem fillAll_of_double (second : rest.next? = some (.char '%', more)) :
    fillAll size (fuel + 1) done text =
      fillAll size fuel (.piece [.char '%'] :: (text.span (· != .char '%')).1 :: done) more := by
  rw [fillAll]
  dsimp only
  rw [found]
  dsimp only
  rw [second]
  rfl

theorem fillAll_of_placeholder (absent : ∀ more, rest.next? ≠ some (.char '%', more)) :
    fillAll size (fuel + 1) done text = (do
      let (part, more) ← fillNext size rest
      fillAll size fuel (part :: (text.span (· != .char '%')).1 :: done) more) := by
  rw [fillAll]
  dsimp only
  rw [found]
  dsimp only
  split
  · exact absurd ‹_› (absent _)
  · rfl

end Step

theorem fillAll_alike (size fuel : Nat) {done done' : List (Rope CodePoint)}
    (parts : done.map Rope.toList = done'.map Rope.toList) (same : Same r s) :
    Alike (fun done done' => done.map Rope.toList = done'.map Rope.toList)
      (fillAll size fuel done r) (fillAll size fuel done' s) := by
  induction fuel generalizing done done' r s with
  | zero => exact alike_pure parts
  | succ fuel ih =>
    obtain ⟨start, rest⟩ := same.span (· != .char '%')
    have more {x y : Rope CodePoint} (part : Same x y) :
        (x :: (r.span (· != .char '%')).1 :: done).map Rope.toList =
          (y :: (s.span (· != .char '%')).1 :: done').map Rope.toList := by
      rw [List.map_cons, List.map_cons, List.map_cons, List.map_cons, part, start, parts]
    rcases rest.next? with ⟨none, none'⟩ | ⟨mark, r', s', some, some', rest⟩
    · rw [fillAll, fillAll]
      dsimp only
      rw [none, none']
      exact alike_pure (List.cons.inj (more (Same.refl (.piece [])))).2
    · rcases rest.marked (.char '%') with ⟨r, s, second, second', rest⟩ | ⟨absent, absent'⟩
      · rw [fillAll_of_double some second, fillAll_of_double some' second']
        exact ih (more (.refl _)) rest
      · rw [fillAll_of_placeholder some absent, fillAll_of_placeholder some' absent']
        exact (fillNext_alike size rest).bind fun x y further => ih (more further.1) further.2

end Filling

namespace Operand

variable {a b : Operand} {r s : Rope CodePoint}

theorem supply_plain (a : Operand) :
    (Supply.ofOperand a.plain).plain = (Supply.ofOperand a).plain := by
  cases a <;> rfl

/-- What a text is filled to depends on the items of the texts and lists alone. -/
theorem fill_same (same : Same r s) (alike : a.Alike b) : SameAnswer (fill r a) (fill s b) := by
  have supplies : (Supply.ofOperand a).plain = (Supply.ofOperand b).plain := by
    rw [← supply_plain, alike, supply_plain]
  have none : ([] : List (Rope CodePoint)).map Rope.toList = [].map Rope.toList := rfl
  have filled := Filling.fillAll_alike r.length (r.length + 1) none same _ _ supplies
  unfold fill
  rw [← same.length]
  dsimp only
  rcases filled with ⟨fault, failed, failed'⟩ |
    ⟨parts, parts', supply, supply', ran, ran', texts, left⟩
  · rw [failed, failed']
    rfl
  · rw [ran, ran']
    have next : supply.next?.isSome = supply'.next?.isSome := by
      have next := congrArg (fun supply => supply.next?.isSome) left
      simpa only [Supply.plain, Option.isSome_map] using next
    simp only [Work.ok_bind, next, Filling.keyed?_isNone left]
    split
    · rfl
    · refine congrArg Except.ok (Rope.concat_same ?_)
      rw [List.map_reverse, List.map_reverse, texts]

end Operand

end GrowthGrammar
