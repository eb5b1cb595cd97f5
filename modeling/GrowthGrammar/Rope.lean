/-!
Ropes: sequences kept as they were put together. A long repetition takes no room until its items are
asked for.
-/
namespace GrowthGrammar

inductive Rope (α : Type) where
  | piece (items : List α)
  | joined (left right : Rope α)
  | repeated (rope : Rope α) (times : Nat)

namespace Rope

variable {α β : Type}

instance : Append (Rope α) := ⟨.joined⟩

def ofString (s : String) : Rope Char := .piece s.toList

def toList : Rope α → List α
  | .piece items => items
  | .joined left right => left.toList ++ right.toList
  | .repeated rope times => (List.replicate times rope.toList).flatten

def length : Rope α → Nat
  | .piece items => items.length
  | .joined left right => left.length + right.length
  | .repeated rope times => times * rope.length

def isEmpty : Rope α → Bool
  | .piece items => items.isEmpty
  | .joined left right => left.isEmpty && right.isEmpty
  | .repeated rope times => times == 0 || rope.isEmpty

def map (f : α → β) : Rope α → Rope β
  | .piece items => .piece (items.map f)
  | .joined left right => .joined (left.map f) (right.map f)
  | .repeated rope times => .repeated (rope.map f) times

/-- The first items. Of a repetition these are whole rounds and the start of one more. -/
def take (n : Nat) : Rope α → Rope α
  | .piece items => .piece (items.take n)
  | .joined left right =>
    if n ≤ left.length then left.take n else .joined left (right.take (n - left.length))
  | .repeated rope times =>
    if times * rope.length ≤ n then .repeated rope times
    else .joined (.repeated rope (n / rope.length)) (rope.take (n % rope.length))

/-- The first item and the rest. Of a repetition only the first round is opened. -/
def next? : Rope α → Option (α × Rope α)
  | .piece [] => none
  | .piece (x :: items) => some (x, .piece items)
  | .joined left right =>
    match left.next? with
    | some (x, rest) => some (x, .joined rest right)
    | none => right.next?
  | .repeated _ 0 => none
  | .repeated rope (times + 1) =>
    rope.next?.map fun (x, rest) => (x, .joined rest (.repeated rope times))

/-- The items up to the first that fails a test, and the items from there. -/
def span (test : α → Bool) : Rope α → Rope α × Rope α
  | .piece items => (.piece (items.takeWhile test), .piece (items.dropWhile test))
  | .joined left right =>
    let (start, rest) := left.span test
    if rest.isEmpty then
      let (more, rest) := right.span test
      (.joined start more, rest)
    else (start, .joined rest right)
  | .repeated _ 0 => (.piece [], .piece [])
  | .repeated rope (times + 1) =>
    let (start, rest) := rope.span test
    if rest.isEmpty then (.repeated rope (times + 1), .piece [])
    else (start, .joined rest (.repeated rope times))

/-- The first ropes of a list as one, twice as many for each step of height, and the ropes left. -/
def gather : Nat → List (Rope α) → Rope α × List (Rope α)
  | _, [] => (.piece [], [])
  | 0, rope :: rest => (rope, rest)
  | height + 1, ropes =>
    let (left, ropes) := gather height ropes
    let (right, ropes) := gather height ropes
    (.joined left right, ropes)

/-- Ropes joined to one. -/
def concat (ropes : List (Rope α)) : Rope α := (gather (ropes.length.log2 + 1) ropes).1

@[simp]
theorem toList_append (r s : Rope α) : (r ++ s).toList = r.toList ++ s.toList := rfl

@[simp]
theorem length_toList (r : Rope α) : r.toList.length = r.length := by
  induction r with
  | piece items => rfl
  | joined left right ihl ihr => simp [toList, length, ihl, ihr]
  | repeated rope times ih =>
    rw [toList, length, List.length_flatten, List.map_replicate, List.sum_replicate_nat, ih]

theorem take_flatten_replicate (xs : List α) (q : Nat) :
    ∀ (times n : Nat), q < times → n ≤ xs.length →
      (List.replicate times xs).flatten.take (q * xs.length + n) =
        (List.replicate q xs).flatten ++ xs.take n := by
  induction q with
  | zero =>
    intro times n ht hn
    obtain ⟨k, rfl⟩ := Nat.exists_eq_add_of_lt ht
    simp [List.replicate_succ, List.take_append_of_le_length hn]
  | succ q ih =>
    intro times n ht hn
    obtain ⟨k, rfl⟩ : ∃ k, times = k + 1 := ⟨times - 1, by omega⟩
    have split : (q + 1) * xs.length + n = xs.length + (q * xs.length + n) := by
      rw [Nat.succ_mul]; omega
    rw [List.replicate_succ, List.flatten_cons, split, List.take_length_add_append,
      ih k n (by omega) hn]
    simp [List.replicate_succ]

@[simp]
theorem toList_take (n : Nat) (r : Rope α) : (r.take n).toList = r.toList.take n := by
  induction r generalizing n with
  | piece items => rfl
  | joined left right ihl ihr =>
    simp only [take, toList]
    split
    · rw [ihl, List.take_append_of_le_length (by simpa)]
    · have whole : left.toList.take n = left.toList := List.take_of_length_le (by simp; omega)
      rw [toList, ihr, List.take_append, whole, length_toList]
  | repeated rope times ih =>
    simp only [take]
    split
    · next h =>
      rw [List.take_of_length_le]
      simpa [length] using h
    · next h =>
      have positive : 0 < rope.length := by
        rcases Nat.eq_zero_or_pos rope.length with zero | positive
        · simp [zero] at h
        · exact positive
      have rounds : n / rope.length < times := (Nat.div_lt_iff_lt_mul positive).2 (by omega)
      have part : n % rope.length ≤ rope.toList.length := by
        simpa using Nat.le_of_lt (Nat.mod_lt n positive)
      have whole := take_flatten_replicate rope.toList (n / rope.length) times
        (n % rope.length) rounds part
      simp only [toList, ih]
      rw [← whole, length_toList, Nat.mul_comm, Nat.div_add_mod]

/-! ### First items -/

theorem next?_eq_none_iff (r : Rope α) : r.next? = none ↔ r.toList = [] := by
  induction r with
  | piece items => cases items <;> simp [next?, toList]
  | joined left right ihl ihr =>
    cases h : left.next? with
    | none => simp [next?, toList, h, ihr, ihl.1 h]
    | some found =>
      have filled : left.toList ≠ [] := fun e => by simp [ihl.2 e] at h
      simp [next?, toList, h, filled]
  | repeated rope times ih =>
    cases times with
    | zero => simp [next?, toList]
    | succ times =>
      have rounds : rope.toList = [] → (List.replicate times rope.toList).flatten = [] :=
        fun empty => by simp [empty]
      simp only [next?, Option.map_eq_none_iff, ih, toList, List.replicate_succ, List.flatten_cons,
        List.append_eq_nil_iff]
      exact ⟨fun empty => ⟨empty, rounds empty⟩, And.left⟩

theorem toList_eq_of_next? {r : Rope α} {x : α} {rest : Rope α}
    (h : r.next? = some (x, rest)) : r.toList = x :: rest.toList := by
  induction r generalizing rest with
  | piece items =>
    cases items with
    | nil => simp [next?] at h
    | cons y items =>
      obtain ⟨rfl, rfl⟩ := by simpa [next?] using h
      rfl
  | joined left right ihl ihr =>
    cases found : left.next? with
    | none =>
      have empty := (next?_eq_none_iff left).1 found
      simp only [next?, found] at h
      simp [toList, empty, ihr h]
    | some first =>
      obtain ⟨y, after⟩ := first
      simp only [next?, found, Option.some.injEq, Prod.mk.injEq] at h
      obtain ⟨rfl, rfl⟩ := h
      simp [toList, ihl found]
  | repeated rope times ih =>
    cases times with
    | zero => simp [next?] at h
    | succ times =>
      obtain ⟨⟨y, after⟩, found, same⟩ := Option.map_eq_some_iff.1 h
      simp only [Prod.mk.injEq] at same
      obtain ⟨rfl, rfl⟩ := same
      simp [toList, ih found, List.replicate_succ]

theorem isEmpty_iff (r : Rope α) : r.isEmpty = true ↔ r.toList = [] := by
  induction r with
  | piece items => simp [isEmpty, toList]
  | joined left right ihl ihr => simp [isEmpty, toList, ihl, ihr]
  | repeated rope times ih => cases times <;> simp [isEmpty, toList, ih]

/-! ### Ropes joined -/

theorem toList_gather (height : Nat) (ropes : List (Rope α)) :
    (gather height ropes).1.toList ++ (gather height ropes).2.flatMap toList =
      ropes.flatMap toList := by
  induction height generalizing ropes with
  | zero => cases ropes <;> simp [gather, toList]
  | succ height ih =>
    cases ropes with
    | nil => simp [gather, toList]
    | cons rope rest => simp only [gather, toList, List.append_assoc, ih]

theorem length_gather (height : Nat) (ropes : List (Rope α)) :
    (gather height ropes).2.length = ropes.length - Nat.pow 2 height := by
  induction height generalizing ropes with
  | zero => cases ropes <;> simp [gather]
  | succ height ih =>
    cases ropes with
    | nil => simp [gather]
    | cons rope rest =>
      have twice : Nat.pow 2 (height + 1) = Nat.pow 2 height * 2 := rfl
      simp only [gather, ih, twice]
      omega

@[simp]
theorem toList_concat (ropes : List (Rope α)) : (concat ropes).toList = ropes.flatMap toList := by
  have small : ropes.length < Nat.pow 2 (ropes.length.log2 + 1) := Nat.lt_log2_self
  have left : (gather (ropes.length.log2 + 1) ropes).2 = [] := by
    rw [← List.length_eq_zero_iff, length_gather]
    omega
  have whole := toList_gather (ropes.length.log2 + 1) ropes
  rw [concat, ← whole, left]
  simp

end Rope

end GrowthGrammar
