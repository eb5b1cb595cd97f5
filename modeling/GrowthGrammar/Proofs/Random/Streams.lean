import GrowthGrammar.Proofs.Random.Dispenser

/-!
Independent streams. The numbers that a context gives depend on the seed, on its name and on how many
were drawn from it before, and on nothing else; restored streams give them again.
-/
namespace GrowthGrammar

namespace Streams

theorem stream_ofSeed (seed : Int) :
    (ofSeed seed).stream = fun context => Twister.ofSeed (seedOf seed context) := by
  funext context
  show fresh seed context = _
  rw [fresh, seedOf]

/-- What is noted about one context is nothing to the others. -/
theorem stream_setStream (s : Streams) (context : String) (t : Twister) :
    (s.setStream context t).stream = Function.update s.stream context t := by
  funext other
  unfold setStream
  conv_lhs => rw [stream]
  dsimp only
  rw [Catalog.get?_put]
  by_cases same : context = other
  · subst same
    rw [if_pos rfl, Function.update_self]
  · rw [if_neg same, Function.update_of_ne (Ne.symm same), stream]

theorem stream_start (s : Streams) (context : String) : (s.start context).stream = s.stream := by
  rw [start, stream_setStream, Function.update_eq_self]

theorem stream_draw (s : Streams) (context : String) :
    (s.draw context).2.stream = Function.update s.stream context (s.stream context).draw.2 :=
  stream_setStream s context _

/-- What was saved of streams is all that there is of them. -/
theorem restore_saved (s other : Streams) : other.restore s.saved = s := by
  have contexts : Catalog.ofList s.contexts.entries = s.contexts :=
    Catalog.ext_entries (Catalog.entries_ofList s.contexts.distinct)
  unfold restore saved
  rw [contexts]

/-- Streams hand out the names of contexts. -/
@[reducible]
def manager : Manager Double where
  State := Streams
  Handle := String
  Kept := Saved
  handOut s context := (context, s.start context)
  draw := draw
  saved := saved
  restore := restore

end Streams

/-- The generators that streams are made of. Whatever they are without a seed, nothing comes of
it. -/
@[reducible]
def Generator.twister : Generator where
  State := Twister
  Number := Double
  Kept := Twister
  ofSeed := Twister.ofSeed
  unseeded := Twister.ofSeed
  draw := Twister.draw
  keep := id
  putBack _ t := t
  putBack_keep _ _ := rfl

namespace Streams

/-- Streams keep contexts apart. -/
def keepsApart : KeepsApart (g := .twister) manager where
  Shows s f := s.stream = f
  Belongs _ context name := name = context
  handOut_shows shows context := (stream_start _ context).trans shows
  handOut_belongs _ _ := rfl
  handOut_keeps own _ := own
  draw_gives := by
    rintro s f context name rfl rfl
    rfl
  draw_shows := by
    rintro s f context name rfl rfl
    exact stream_draw s name
  draw_keeps own _ := own
  restore_shows shows other := (congrArg stream (restore_saved _ other)).trans shows

/-- Streams are independent, whatever their generators are. Scripts that ask for streams, draw from
them and save in any order draw from each context the first numbers of the generator that has the
seed of that context, as many as they draw from it. Once restored, streams give what they gave right
after they were saved, whatever has been done since. And the streams of seeded twisters are this. -/
theorem streams_independent (g : Generator) (seed : Int) :
    let dispenser : Manager g.Number := Dispenser.manager g
    (∀ script, let log := dispenser.log (.ofSeed seed) script
      log.map (·.1) = drawn [] script ∧
      ∀ context, numbersOf context log =
        g.first (g.ofSeed (seedOf seed context)) ((drawn [] script).count context)) ∧
    (∀ past script, ∀ other : Dispenser g,
      let left := ((dispenser.session (.ofSeed seed)).run past).state
      dispenser.log (other.restore left.saved) script = dispenser.log left script) ∧
    ∀ steps, ((manager.session (.ofSeed seed)).run steps).log =
      (((Dispenser.manager .twister).session (.ofSeed seed)).run steps).log := by
  have shows (g : Generator) := Dispenser.ofSeed_shows (g := g) seed
  refine ⟨fun script => ?_, fun past script other => ?_, fun steps => ?_⟩
  · have log := (Dispenser.keepsApart g).log_eq (shows g) script
    refine ⟨?_, fun context => ?_⟩
    · rw [log, map_fst_draws]
    · rw [log, numbersOf_draws]
  · obtain ⟨f, later⟩ := (Dispenser.keepsApart g).exists_shown (shows g) past
    exact (Dispenser.keepsApart g).log_restore later other script
  · exact log_alike keepsApart (Dispenser.keepsApart .twister) (stream_ofSeed seed)
      (shows .twister) steps

end Streams

end GrowthGrammar
