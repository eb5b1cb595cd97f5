import GrowthGrammar.Graph.Table

/-!
Edges: two endpoints, of which the lower one comes first, so that an edge has one form whichever way
round it is given. An edge from a node to itself is one too.
-/
namespace GrowthGrammar

structure Edge where
  low : Int
  high : Int
  low_le_high : low ≤ high
  deriving DecidableEq

namespace Edge

/-- The edge between two nodes. -/
def between (a b : Int) : Edge :=
  if h : a ≤ b then ⟨a, b, h⟩ else ⟨b, a, by omega⟩

theorem between_comm (a b : Int) : between a b = between b a := by
  unfold between
  split <;> split
  · rename_i h h'
    have same : a = b := by omega
    subst same
    rfl
  · rfl
  · rfl
  · omega

def isLoop (e : Edge) : Bool := e.low = e.high

/-- Whether the edge ends at a node. -/
def touches (e : Edge) (id : Int) : Bool := e.low = id || e.high = id

/-- The endpoint on the other side. -/
def opposite (e : Edge) (id : Int) : Int := if e.low = id then e.high else e.low

theorem between_low (a b : Int) : (between a b).low = min a b := by
  unfold between
  split
  · show a = min a b
    omega
  · show b = min a b
    omega

theorem between_high (a b : Int) : (between a b).high = max a b := by
  unfold between
  split
  · show b = max a b
    omega
  · show a = max a b
    omega

theorem between_low_high (e : Edge) : between e.low e.high = e := by
  unfold between
  rw [dif_pos e.low_le_high]

/-- An edge joins two nodes exactly if it ends at one and the other is opposite. -/
theorem between_eq_iff {a b : Int} {e : Edge} :
    between a b = e ↔ e.touches a = true ∧ e.opposite a = b := by
  obtain ⟨low, high, low_le_high⟩ := e
  unfold between touches opposite
  simp only [Bool.or_eq_true, decide_eq_true_eq]
  split
  · rw [Edge.mk.injEq]
    split <;> omega
  · rw [Edge.mk.injEq]
    split <;> omega

theorem between_opposite {e : Edge} {a : Int} (h : e.touches a = true) :
    between a (e.opposite a) = e := between_eq_iff.mpr ⟨h, rfl⟩

theorem touches_between (a b : Int) : (between a b).touches a = true :=
  (between_eq_iff.mp rfl).1

theorem touches_between_iff {a b id : Int} :
    (between a b).touches id = true ↔ id = a ∨ id = b := by
  unfold between touches
  split <;> simp only [Bool.or_eq_true, decide_eq_true_eq] <;> omega

theorem opposite_between (a b : Int) : (between a b).opposite a = b :=
  (between_eq_iff.mp rfl).2

/-- An edge can be given in two ways. -/
theorem between_eq_between_iff {a b c d : Int} :
    between a b = between c d ↔ (a = c ∧ b = d) ∨ (a = d ∧ b = c) := by
  unfold between
  split <;> split <;> rw [Edge.mk.injEq] <;> omega

/-- Edges are ordered by their lower endpoint, then by the higher one. -/
instance : Key Edge where
  before a b := a.low < b.low || (a.low = b.low && a.high < b.high)
  irrefl a := by simp
  trans h h' := by
    simp only [Bool.or_eq_true, Bool.and_eq_true, decide_eq_true_eq] at *
    omega
  total := by
    intro a b h different
    simp only [Bool.or_eq_false_iff, Bool.and_eq_false_iff, Bool.or_eq_true, Bool.and_eq_true,
      decide_eq_true_eq, decide_eq_false_iff_not] at *
    by_cases low : a.low = b.low
    · by_cases high : a.high = b.high
      · exact absurd (by cases a; cases b; simp_all) different
      · omega
    · omega

end Edge

end GrowthGrammar
