/-!
Sorting by runs, with a comparison that may fail. Stretches that are in order are found from left to
right, short ones are filled up by insertion, and neighbouring runs are merged so that the merges
stay balanced. Where items cannot be compared, the first comparison that fails ends the sort, so the
order of comparisons shows.
-/
namespace GrowthGrammar

namespace RunSort

variable {ε α : Type}

/-- A comparison: whether an item comes before another, unless the two cannot be compared. -/
abbrev Order (ε α : Type) := α → α → Except ε Bool

/-! ### Runs -/

/-- How many items after the last one go on in the same way, each before the one in front of it
(`descending`) or none of them. -/
def runLength (before : Order ε α) (descending : Bool) (last : α) : List α → Except ε Nat
  | [] => .ok 0
  | item :: rest => do
    if (← before item last) == descending then
      return (← runLength before descending item rest) + 1
    else return 0

/-- The longest run at the start, turned round if it descends, and the items after it. -/
def firstRun (before : Order ε α) : List α → Except ε (List α × List α)
  | first :: second :: rest => do
    let descending ← before second first
    let count := (← runLength before descending second rest) + 2
    let items := first :: second :: rest
    let run := items.take count
    return (if descending then run.reverse else run, items.drop count)
  | items => .ok (items, [])

/-- The place of an item among ascending items from index `low` to `high`, found by halving. -/
def placeFor (before : Order ε α) (sorted : Array α) (item : α) : Nat → Nat → Nat → Except ε Nat
  | 0, low, _ => .ok low
  | fuel + 1, low, high =>
    if low < high then
      let middle := low + (high - low) / 2
      match sorted[middle]? with
      | none => .ok low
      | some other => do
        if ← before item other then placeFor before sorted item fuel low middle
        else placeFor before sorted item fuel (middle + 1) high
    else .ok low

/-- Inserts an item into ascending items, after those that it does not come before. -/
def insert (before : Order ε α) (sorted : List α) (item : α) : Except ε (List α) := do
  let place ← placeFor before sorted.toArray item sorted.length 0 sorted.length
  return sorted.take place ++ item :: sorted.drop place

/-- From this many items on there is more than one run. -/
def severalRuns : Nat := 64

/-- The number of items, halved until it is small. `odd` is one if a half was lost before. -/
def halved (odd size : Nat) : Nat :=
  if size < severalRuns then size + odd else halved (max odd (size % 2)) (size / 2)
termination_by size
decreasing_by simp only [severalRuns] at *; omega

/-- The length that runs are filled up to. -/
def leastRun (size : Nat) : Nat := halved 0 size

/-- Ascending items, and where they stood. -/
structure Run (α : Type) where
  start : Nat
  items : List α
  /-- How deep the boundary to the next run is. -/
  depth : Nat := 0

def runs (before : Order ε α) (least : Nat) : Nat → Nat → List α → Except ε (List (Run α))
  | 0, _, _ => .ok []
  | _, _, [] => .ok []
  | fuel + 1, start, items => do
    let (run, rest) ← firstRun before items
    let missing := least - run.length
    let run ← (rest.take missing).foldlM (insert before) run
    return ⟨start, run, 0⟩ :: (← runs before least fuel (start + run.length) (rest.drop missing))

/-! ### Merges -/

/-- Merges ascending items; those on the left come first among equals. -/
def merge (before : Order ε α) : List α → List α → Except ε (List α)
  | [], right => .ok right
  | left, [] => .ok left
  | x :: left, y :: right => do
    if ← before y x then return y :: (← merge before (x :: left) right)
    else return x :: (← merge before left (y :: right))
termination_by left right => left.length + right.length

/-- The first halving of `size` places that parts the middles of two runs. Both middles are doubled,
so that they are whole. -/
def halvings (size : Nat) : Nat → Nat → Nat → Nat
  | 0, _, _ => 0
  | fuel + 1, left, right =>
    if size ≤ left then halvings size fuel (2 * (left - size)) (2 * (right - size)) + 1
    else if size ≤ right then 1
    else halvings size fuel (2 * left) (2 * right) + 1

/-- The depth of the boundary between a run and the one after it. -/
def depthBetween (size : Nat) (run next : Run α) : Nat :=
  let middle := 2 * run.start + run.items.length
  halvings size size middle (middle + run.items.length + next.items.length)

/-- Merges the last run into those in front of it, as long as the boundaries there are deeper than
the one behind it. -/
def settle (before : Order ε α) (depth : Nat) (last : Run α) : List (Run α) →
    Except ε (List (Run α))
  | [] => .ok [{ last with depth }]
  | run :: rest =>
    if depth < run.depth then do
      let items ← merge before run.items last.items
      settle before depth { run with items } rest
    else .ok ({ last with depth } :: run :: rest)

/-- Puts a run on top of the runs before it, the last of which comes first. -/
def push (before : Order ε α) (size : Nat) (stack : List (Run α)) (next : Run α) :
    Except ε (List (Run α)) :=
  match stack with
  | [] => .ok [next]
  | last :: rest => return next :: (← settle before (depthBetween size last next) last rest)

/-- Merges all runs, the last of which comes first. The shorter neighbour of the last but one is
merged with it. -/
def collapse (before : Order ε α) : List (Run α) → Except ε (List α)
  | [] => .ok []
  | [run] => .ok run.items
  | [last, run] => merge before run.items last.items
  | last :: run :: first :: rest => do
    if first.items.length < last.items.length then
      let items ← merge before first.items run.items
      collapse before (last :: { first with items } :: rest)
    else
      let items ← merge before run.items last.items
      collapse before ({ run with items } :: first :: rest)
termination_by stack => stack.length

end RunSort

/-- The items in ascending order. -/
def runSort {ε α : Type} (before : α → α → Except ε Bool) (items : List α) :
    Except ε (List α) := do
  let size := items.length
  let found ← RunSort.runs before (RunSort.leastRun size) size 0 items
  RunSort.collapse before (← found.foldlM (RunSort.push before size) [])

end GrowthGrammar
