import GrowthGrammar.Data

/-!
Writing: which data can be written out. All can that hold no integer of more digits than may be
written, and nothing else is ever in the way.
-/
namespace GrowthGrammar

/-- Something is written exactly if the condition holds. Otherwise some integer was too long. -/
def WrittenIff {α : Type} (condition : Prop) (written : Except NumberFault α) : Prop :=
  condition ∧ (∃ a, written = .ok a) ∨ ¬ condition ∧ written = .error .unwritable

namespace WrittenIff

variable {α β : Type} {p q : Prop} {w : Except NumberFault α} {f : α → Except NumberFault β}

theorem of_ok {a : α} (holds : p) : WrittenIff p (.ok a) := .inl ⟨holds, a, rfl⟩

theorem congr (same : p ↔ q) (written : WrittenIff p w) : WrittenIff q w := by
  unfold WrittenIff
  rwa [← same]

/-- The second part is written after the first. -/
theorem bind (first : WrittenIff p w) (second : ∀ a, WrittenIff q (f a)) :
    WrittenIff (p ∧ q) (w >>= f) := by
  rcases first with ⟨holds, a, rfl⟩ | ⟨fails, rfl⟩
  · exact (second a).congr (and_iff_right holds).symm
  · exact .inr ⟨fun both => fails both.1, rfl⟩

theorem map {g : α → β} (written : WrittenIff p w) : WrittenIff p (w >>= fun a => pure (g a)) :=
  (written.bind fun _ => of_ok trivial).congr (and_iff_left trivial)

theorem ok_iff (written : WrittenIff p w) : (∃ a, w = .ok a) ↔ p := by
  rcases written with ⟨holds, done⟩ | ⟨fails, rfl⟩
  · exact iff_of_true done holds
  · exact iff_of_false nofun fails

theorem mapM {p : α → Prop} {f : α → Except NumberFault β} (each : ∀ a, WrittenIff (p a) (f a))
    (items : List α) : WrittenIff (∀ a ∈ items, p a) (items.mapM f) := by
  induction items with
  | nil => exact of_ok fun _ member => absurd member List.not_mem_nil
  | cons a rest ih =>
    rw [List.mapM_cons]
    exact ((each a).bind fun _ => ih.map).congr List.forall_mem_cons.symm

theorem error_iff (written : WrittenIff p w) {fault : NumberFault} :
    w = .error fault ↔ ¬ p ∧ fault = .unwritable := by
  rcases written with ⟨holds, a, rfl⟩ | ⟨fails, rfl⟩
  · exact iff_of_false nofun fun both => both.1 holds
  · exact ⟨fun same => ⟨fails, by cases same; rfl⟩, fun both => by rw [both.2]⟩

end WrittenIff

/-! ### Integers -/

/-- The integer has few enough digits to be written. -/
def Numeral.IsShort (n : Int) : Prop := n.natAbs < Nat.pow 10 maxDigits

instance (n : Int) : Decidable (Numeral.IsShort n) :=
  inferInstanceAs (Decidable (n.natAbs < Nat.pow 10 Numeral.maxDigits))

theorem Numeral.isTooLong_eq (n : Int) : isTooLong n = !decide (IsShort n) := by
  rw [isTooLong, ← decide_not]
  simp only [IsShort, Nat.not_lt]

theorem Numeral.write_of_isShort {n : Int} (short : IsShort n) : write n = .ok (toString n) := by
  rw [write, isTooLong_eq, decide_eq_true short]
  rfl

theorem Numeral.write_of_not_isShort {n : Int} (long : ¬ IsShort n) :
    write n = .error .unwritable := by
  rw [write, isTooLong_eq, decide_eq_false long]
  rfl

theorem Numeral.write_written (n : Int) : WrittenIff (IsShort n) (write n) := by
  by_cases short : IsShort n
  · exact .inl ⟨short, _, write_of_isShort short⟩
  · exact .inr ⟨short, write_of_not_isShort short⟩

/-! ### Data -/

namespace Data

/-- The integer stands somewhere in the datum. -/
inductive Holds (n : Int) : Data → Prop where
  | int : Holds n (.int n)
  | item {d : Data} {items : List Data} : d ∈ items → Holds n d → Holds n (.list items)
  | key {e : Data × Data} {entries : List (Data × Data)} :
      e ∈ entries → Holds n e.1 → Holds n (.map entries)
  | value {e : Data × Data} {entries : List (Data × Data)} :
      e ∈ entries → Holds n e.2 → Holds n (.map entries)

def Writable (d : Data) : Prop := ∀ n, d.Holds n → Numeral.IsShort n

variable {n : Int} {d : Data} {items : List Data} {entries : List (Data × Data)}

theorem writable_int : (Data.int n).Writable ↔ Numeral.IsShort n :=
  ⟨fun writable => writable n .int, fun short _ held => by cases held; exact short⟩

theorem writable_text (s : Spelling) : (Data.text s).Writable := nofun

theorem writable_list : (Data.list items).Writable ↔ ∀ d ∈ items, d.Writable := by
  constructor
  · exact fun writable d member n held => writable n (.item member held)
  · rintro each n (_ | ⟨member, held⟩)
    exact each _ member n held

theorem writable_map :
    (Data.map entries).Writable ↔ ∀ e ∈ entries, e.1.Writable ∧ e.2.Writable := by
  constructor
  · exact fun writable e member => ⟨fun n held => writable n (.key member held),
      fun n held => writable n (.value member held)⟩
  · rintro each n (_ | _ | ⟨member, held⟩ | ⟨member, held⟩)
    · exact (each _ member).1 n held
    · exact (each _ member).2 n held

mutual

theorem literal_written : ∀ d : Data, WrittenIff d.Writable d.literal
  | .null | .bool _ | .float _ | .text _ | .scalar _ => .of_ok nofun
  | .int n => by
    unfold literal
    exact (Numeral.write_written n).congr writable_int.symm
  | .list items => by
    unfold literal
    exact (literals_written items).map.congr writable_list.symm
  | .map entries => by
    unfold literal
    exact (entryLiterals_written entries).map.congr writable_map.symm

theorem literals_written :
    ∀ items : List Data, WrittenIff (∀ d ∈ items, d.Writable) (literals items)
  | [] => .of_ok fun _ member => absurd member List.not_mem_nil
  | d :: rest => by
    unfold literals
    exact ((literal_written d).bind fun _ => (literals_written rest).map).congr
      List.forall_mem_cons.symm

theorem entryLiterals_written :
    ∀ entries : List (Data × Data),
      WrittenIff (∀ e ∈ entries, e.1.Writable ∧ e.2.Writable) (entryLiterals entries)
  | [] => .of_ok fun _ member => absurd member List.not_mem_nil
  | (key, value) :: rest => by
    unfold entryLiterals
    exact ((literal_written key).bind fun _ => (literal_written value).bind fun _ =>
      (entryLiterals_written rest).map).congr (by rw [List.forall_mem_cons, and_assoc])

end

/-- A text is itself, and anything else is written out. -/
theorem toText_written (d : Data) : WrittenIff d.Writable d.toText := by
  cases d with
  | text s => exact .of_ok nofun
  | _ => exact (literal_written _).map

end Data

end GrowthGrammar
