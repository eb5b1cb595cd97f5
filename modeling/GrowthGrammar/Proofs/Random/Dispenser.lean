import GrowthGrammar.Proofs.Random.Manager

/-!
Random streams for contexts, whatever the generators are. Generators are objects that are shared by
all who hold them: a context keeps the one that was made for it, and what is drawn from it moves it
on. Every context draws from its own seed as if there were no others, and restored streams go on
where they stood when they were saved.
-/
namespace GrowthGrammar

/-- The seed of a context. -/
def Streams.seedOf (seed : Int) (context : String) : Nat := Sha256.leading64 s!"{seed}:{context}"

/-- Generators by the places at which they were made, and the places of the contexts. -/
structure Dispenser (g : Generator) where
  seed : Int
  contexts : Catalog String Nat := .empty
  made : Nat := 0
  objects : Nat → g.State

namespace Dispenser

variable {g : Generator}

/-- Places at which no generator was made have the state that one has that is made without a seed. -/
def ofSeed (seed : Int) : Dispenser g := { seed, objects := g.unseeded }

/-- Makes a generator with a state, for a context. -/
def adopt (d : Dispenser g) (context : String) (t : g.State) : Dispenser g :=
  { d with
    contexts := d.contexts.put context d.made
    made := d.made + 1
    objects := Function.update d.objects d.made t }

/-- The generator of a context, which is made when it is asked for the first time. -/
def handOut (d : Dispenser g) (context : String) : Nat × Dispenser g :=
  match d.contexts.get? context with
  | some place => (place, d)
  | none => (d.made, d.adopt context (g.ofSeed (Streams.seedOf d.seed context)))

def draw (d : Dispenser g) (place : Nat) : g.Number × Dispenser g :=
  let drawn := g.draw (d.objects place)
  (drawn.1, { d with objects := Function.update d.objects place drawn.2 })

structure Saved (g : Generator) where
  seed : Int
  contexts : List (String × g.Kept) := []

def saved (d : Dispenser g) : Saved g :=
  ⟨d.seed, d.contexts.entries.map fun (context, place) => (context, g.keep (d.objects place))⟩

/-- Makes new generators for the contexts that were saved and puts their states back. -/
def restore (d : Dispenser g) (kept : Saved g) : Dispenser g :=
  kept.contexts.foldl (fun d (context, t) => d.adopt context (g.putBack (d.objects d.made) t))
    { d with seed := kept.seed, contexts := .empty }

/-- The manager that dispenses generators. -/
@[reducible]
def manager (g : Generator) : Manager g.Number where
  State := Dispenser g
  Handle := Nat
  Kept := Saved g
  handOut := handOut
  draw := draw
  saved := saved
  restore := restore

/-! ### Contexts have their generators to themselves -/

/-- Every context has a generator of its own, in the given state, or else would get one in it. -/
structure Shows (d : Dispenser g) (f : String → g.State) : Prop where
  within : ∀ {context place}, d.contexts.get? context = some place → place < d.made
  state : ∀ {context place}, d.contexts.get? context = some place → d.objects place = f context
  apart : ∀ {context other place}, d.contexts.get? context = some place →
    d.contexts.get? other = some place → context = other
  fresh : ∀ {context}, d.contexts.get? context = none →
    f context = g.ofSeed (Streams.seedOf d.seed context)

variable {d : Dispenser g} {f : String → g.State}

theorem ofSeed_shows (seed : Int) :
    (ofSeed seed : Dispenser g).Shows fun context => g.ofSeed (Streams.seedOf seed context) :=
  ⟨nofun, nofun, nofun, fun _ => rfl⟩

theorem get?_adopt (d : Dispenser g) (context other : String) (t : g.State) :
    (d.adopt context t).contexts.get? other =
      if context = other then some d.made else d.contexts.get? other :=
  d.contexts.get?_put context other d.made

theorem objects_adopt (d : Dispenser g) (context : String) (t : g.State) :
    (d.adopt context t).objects = Function.update d.objects d.made t := rfl

theorem objects_draw (d : Dispenser g) (place : Nat) : (d.draw place).2.objects =
    Function.update d.objects place (g.draw (d.objects place)).2 := rfl

theorem adopt_shows (shows : d.Shows f) (context : String) (t : g.State) :
    (d.adopt context t).Shows (Function.update f context t) := by
  -- The new generator stands at a place that no context had, so all others keep theirs.
  have old {other : String} {place : Nat} (different : context ≠ other)
      (given : (d.adopt context t).contexts.get? other = some place) :
      d.contexts.get? other = some place := by rwa [get?_adopt, if_neg different] at given
  have new {place : Nat} (given : (d.adopt context t).contexts.get? context = some place) :
      place = d.made := by
    rw [get?_adopt, if_pos rfl] at given
    exact (Option.some.inj given).symm
  refine ⟨fun {other place} given => ?_, fun {other place} given => ?_,
    fun {other another place} first second => ?_, fun {other} missing => ?_⟩
  · by_cases same : context = other
    · subst same
      exact new given ▸ Nat.lt_succ_self d.made
    · exact Nat.lt_succ_of_lt (shows.within (old same given))
  · by_cases same : context = other
    · subst same
      rw [new given, objects_adopt, Function.update_self, Function.update_self]
    · have elsewhere : place ≠ d.made := Nat.ne_of_lt (shows.within (old same given))
      rw [objects_adopt, Function.update_of_ne elsewhere, Function.update_of_ne (Ne.symm same)]
      exact shows.state (old same given)
  · by_cases same : context = other
    · subst same
      by_contra different
      exact Nat.ne_of_lt (shows.within (old different second)) (new first)
    · by_cases also : context = another
      · subst also
        exact absurd (new second) (Nat.ne_of_lt (shows.within (old same first)))
      · exact shows.apart (old same first) (old also second)
  · rw [get?_adopt] at missing
    by_cases same : context = other
    · rw [if_pos same] at missing
      cases missing
    · rw [if_neg same] at missing
      rw [Function.update_of_ne (Ne.symm same)]
      exact shows.fresh missing

theorem handOut_shows (shows : d.Shows f) (context : String) : (d.handOut context).2.Shows f := by
  unfold handOut
  split
  · exact shows
  · rename_i missing
    have adopted := adopt_shows shows context (f context)
    rwa [Function.update_eq_self, shows.fresh missing] at adopted

/-- Asking for a stream again gives the same one. -/
theorem handOut_belongs (d : Dispenser g) (context : String) :
    (d.handOut context).2.contexts.get? context = some (d.handOut context).1 := by
  unfold handOut
  split
  · assumption
  · rw [get?_adopt, if_pos rfl]

theorem handOut_keeps {context : String} {place : Nat}
    (own : d.contexts.get? context = some place) (other : String) :
    (d.handOut other).2.contexts.get? context = some place := by
  unfold handOut
  split
  · exact own
  · rename_i missing
    have different : other ≠ context := by
      rintro rfl
      cases missing.symm.trans own
    rwa [get?_adopt, if_neg different]

theorem draw_shows (shows : d.Shows f) {context : String} {place : Nat}
    (own : d.contexts.get? context = some place) :
    (d.draw place).2.Shows (Function.update f context (g.draw (f context)).2) := by
  refine ⟨shows.within, fun {other place'} given => ?_, shows.apart, fun {other} missing => ?_⟩
  · by_cases same : other = context
    · subst same
      obtain rfl := Option.some.inj (own.symm.trans given)
      rw [objects_draw, Function.update_self, Function.update_self, shows.state own]
    · have elsewhere : place' ≠ place := fun here => same (shows.apart given (here ▸ own))
      rw [objects_draw, Function.update_of_ne elsewhere, Function.update_of_ne same]
      exact shows.state given
  · have different : other ≠ context := by
      rintro rfl
      cases missing.symm.trans own
    rw [Function.update_of_ne different]
    exact shows.fresh missing

/-- Contexts that are put back have the states that they were kept in, and the others are left. -/
theorem foldl_adopt_shows (f : String → g.State) (entries : List (String × g.Kept))
    (kept : ∀ entry ∈ entries, ∀ t, g.putBack t entry.2 = f entry.1) {d : Dispenser g}
    {before : String → g.State} (shows : d.Shows before) :
    (entries.foldl (fun d (context, t) => d.adopt context (g.putBack (d.objects d.made) t)) d).Shows
      fun context => if context ∈ entries.map (·.1) then f context else before context := by
  induction entries generalizing d before with
  | nil => exact shows
  | cons entry rest ih =>
    obtain ⟨first, others⟩ := List.forall_mem_cons.mp kept
    have adopted : (d.adopt entry.1 (g.putBack (d.objects d.made) entry.2)).Shows
        (Function.update before entry.1 (f entry.1)) := by
      rw [← first (d.objects d.made)]
      exact adopt_shows shows entry.1 _
    refine (congrArg (Shows _) ?_).mp (ih others adopted)
    funext context
    rw [List.map_cons]
    by_cases later : context ∈ rest.map (·.1)
    · rw [if_pos later, if_pos (List.mem_cons_of_mem _ later)]
    · rw [if_neg later]
      by_cases same : context = entry.1
      · rw [same, Function.update_self, if_pos List.mem_cons_self]
      · rw [Function.update_of_ne same, if_neg]
        exact fun member => (List.mem_cons.mp member).elim same later

theorem restore_shows (shows : d.Shows f) (other : Dispenser g) :
    (other.restore d.saved).Shows f := by
  have start : ({ other with seed := d.seed, contexts := .empty } : Dispenser g).Shows
      fun context => g.ofSeed (Streams.seedOf d.seed context) := ⟨nofun, nofun, nofun, fun _ => rfl⟩
  -- What was not saved had not been asked for, so it still comes from the seed.
  have restored := foldl_adopt_shows f d.saved.contexts (fun entry member t => ?_) start
  · refine (congrArg (Shows _) ?_).mp restored
    funext context
    split
    · rfl
    · rename_i absent
      refine (shows.fresh (Catalog.get?_eq_none_iff.mpr fun member => absent ?_)).symm
      rw [saved, List.map_map]
      exact member
  · obtain ⟨⟨context, place⟩, there, rfl⟩ := List.mem_map.mp member
    rw [g.putBack_keep]
    exact shows.state (Catalog.get?_eq_some_iff.mpr there)

/-- Dispensers keep contexts apart. -/
def keepsApart (g : Generator) : KeepsApart (manager g) where
  Shows := Shows
  Belongs d context place := d.contexts.get? context = some place
  handOut_shows := handOut_shows
  handOut_belongs := handOut_belongs
  handOut_keeps := handOut_keeps
  draw_gives shows own := congrArg (fun t => (g.draw t).1) (shows.state own)
  draw_shows shows own := draw_shows shows own
  draw_keeps own _ := own
  restore_shows := restore_shows

end Dispenser

end GrowthGrammar
