import GrowthGrammar.Random.Streams
import Mathlib.Data.List.Forall2
import Mathlib.Logic.Function.Basic

/-!
Managers of random streams, and what is drawn from the streams that they hand out. A manager keeps
contexts apart if it is the same to those who draw as if every context had a generator to itself.
-/
namespace GrowthGrammar

/-- Generators of random numbers. They are made from a seed or without one, and their state can be
kept and put back. -/
structure Generator where
  State : Type
  Number : Type
  Kept : Type
  ofSeed : Nat → State
  unseeded : Nat → State
  draw : State → Number × State
  keep : State → Kept
  putBack : State → Kept → State
  putBack_keep : ∀ s t, putBack s (keep t) = t

/-- The first numbers that are drawn in a state. -/
def Generator.first (g : Generator) (t : g.State) : Nat → List g.Number
  | 0 => []
  | n + 1 => (g.draw t).1 :: g.first (g.draw t).2 n

/-- Something that hands out a stream for every context, from which numbers can be drawn. -/
structure Manager (ν : Type) where
  State : Type
  Handle : Type
  Kept : Type
  handOut : State → String → Handle × State
  draw : State → Handle → ν × State
  saved : State → Kept
  restore : State → Kept → State

/-! ### Sessions -/

/-- What may be asked of a manager. Streams are drawn from by their number among those that were
handed out. -/
inductive Request where
  | stream (context : String)
  | ruleStream (ruleId : String)
  | draw (i : Nat)
  | save

/-- What is done in a session: a request, or going back to what was saved, by its number. -/
inductive Step where
  | request (r : Request)
  | restore (i : Nat)

/-- A session with a manager, with the numbers that were drawn and the contexts they came from. -/
structure Session {ν : Type} (m : Manager ν) where
  state : m.State
  held : List (String × m.Handle) := []
  saves : List m.Kept := []
  log : List (String × ν) := []

namespace Session

variable {ν : Type} {m : Manager ν}

def take (s : Session m) (context : String) : Session m :=
  let handed := m.handOut s.state context
  { s with state := handed.2, held := s.held ++ [(context, handed.1)] }

def drawFrom (s : Session m) (stream : String × m.Handle) : Session m :=
  let drawn := m.draw s.state stream.2
  { s with state := drawn.2, log := s.log ++ [(stream.1, drawn.1)] }

def serve (s : Session m) : Request → Session m
  | .stream context => s.take context
  | .ruleStream ruleId => s.take (Streams.ruleContext ruleId)
  | .draw i => (s.held[i]?).elim s s.drawFrom
  | .save => { s with saves := s.saves ++ [m.saved s.state] }

/-- Goes back to what was saved. The streams that were handed out before do not belong to the
manager any more. -/
def goBack (s : Session m) (kept : m.Kept) : Session m :=
  { s with state := m.restore s.state kept, held := [] }

def step (s : Session m) : Step → Session m
  | .request r => s.serve r
  | .restore i => (s.saves[i]?).elim s s.goBack

def run (s : Session m) (steps : List Step) : Session m := steps.foldl step s

end Session

/-- A session at its start. -/
def Manager.session {ν : Type} (m : Manager ν) (s : m.State) : Session m := { state := s }

/-- What those who start a session draw with a script of requests. -/
def Manager.log {ν : Type} (m : Manager ν) (s : m.State) (script : List Request) :
    List (String × ν) :=
  ((m.session s).run (script.map .request)).log

/-- The contexts that a script draws from, one after another, where streams of some contexts were
handed out before. -/
def drawn (asked : List String) : List Request → List String
  | [] => []
  | .stream context :: rest => drawn (asked ++ [context]) rest
  | .ruleStream ruleId :: rest => drawn (asked ++ [Streams.ruleContext ruleId]) rest
  | .draw i :: rest => (asked[i]?).toList ++ drawn asked rest
  | .save :: rest => drawn asked rest

/-- The numbers in a log that came from one context. -/
def numbersOf {ν : Type} (context : String) (log : List (String × ν)) : List ν :=
  (log.filter fun entry => entry.1 = context).map (·.2)

variable {g : Generator}

/-! ### A generator for every context -/

/-- The manager that has a generator for every context. -/
@[reducible]
def generators (g : Generator) : Manager g.Number where
  State := String → g.State
  Handle := String
  Kept := String → g.State
  handOut f context := (context, f)
  draw f context := ((g.draw (f context)).1, Function.update f context (g.draw (f context)).2)
  saved f := f
  restore _ f := f

/-- Draws one number for each of some contexts, in that order. -/
def Generator.draws (g : Generator) (f : String → g.State) : List String → List (String × g.Number)
  | [] => []
  | context :: rest =>
    (context, (g.draw (f context)).1) ::
      g.draws (Function.update f context (g.draw (f context)).2) rest

theorem map_fst_draws (f : String → g.State) (contexts : List String) :
    (g.draws f contexts).map (·.1) = contexts := by
  induction contexts generalizing f with
  | nil => rfl
  | cons context rest ih => rw [Generator.draws, List.map_cons, ih]

/-- The numbers of a context are the first ones of its generator. -/
theorem numbersOf_draws (f : String → g.State) (contexts : List String) (context : String) :
    numbersOf context (g.draws f contexts) = g.first (f context) (contexts.count context) := by
  induction contexts generalizing f with
  | nil => rfl
  | cons other rest ih =>
    unfold Generator.draws numbersOf
    by_cases same : other = context
    · subst same
      rw [List.filter_cons_of_pos (by simp), List.map_cons, List.count_cons_self, Generator.first]
      have later := ih (Function.update f other (g.draw (f other)).2)
      rw [Function.update_self] at later
      exact congrArg _ later
    · rw [List.filter_cons_of_neg (by simpa using same), List.count_cons_of_ne same]
      have later := ih (Function.update f other (g.draw (f other)).2)
      rwa [Function.update_of_ne (Ne.symm same)] at later

/-- A session with a generator for every context draws what its script says. -/
theorem run_generators (script : List Request) (s : Session (generators g))
    (own : ∀ stream ∈ s.held, stream.2 = stream.1) :
    (s.run (script.map .request)).log =
      s.log ++ g.draws s.state (drawn (s.held.map (·.1)) script) := by
  -- Only draws change a generator, and only that of the context whose stream is drawn from.
  induction script generalizing s with
  | nil => exact (List.append_nil s.log).symm
  | cons r rest ih =>
    have taken (context : String) : ((s.take context).run (rest.map .request)).log =
        s.log ++ g.draws s.state (drawn (s.held.map (·.1) ++ [context]) rest) := by
      have later := ih (s.take context) fun stream member => by
        rcases List.mem_append.mp member with before | new
        · exact own stream before
        · rw [List.mem_singleton.mp new]
      rwa [Session.take, List.map_append] at later
    cases r with
    | stream context => exact taken context
    | ruleStream ruleId => exact taken (Streams.ruleContext ruleId)
    | save => exact ih _ own
    | draw i =>
      show ((s.serve (.draw i)).run (rest.map .request)).log = _
      rw [Session.serve, drawn, List.getElem?_map]
      cases found : s.held[i]? with
      | none => exact ih s own
      | some stream =>
        have name : stream.2 = stream.1 := own stream (List.mem_of_getElem? found)
        refine (ih (s.drawFrom stream) own).trans ?_
        rw [Session.drawFrom, name, List.append_assoc]
        rfl

theorem log_generators (f : String → g.State) (script : List Request) :
    (generators g).log f script = g.draws f (drawn [] script) :=
  run_generators script ((generators g).session f) nofun

/-! ### Managers that keep contexts apart -/

/-- A manager is to those who draw what a generator for every context is. -/
structure KeepsApart (m : Manager g.Number) where
  Shows : m.State → (String → g.State) → Prop
  Belongs : m.State → String → m.Handle → Prop
  handOut_shows : ∀ {s f}, Shows s f → ∀ c, Shows (m.handOut s c).2 f
  handOut_belongs : ∀ s c, Belongs (m.handOut s c).2 c (m.handOut s c).1
  handOut_keeps : ∀ {s c h}, Belongs s c h → ∀ other, Belongs (m.handOut s other).2 c h
  draw_gives : ∀ {s f c h}, Shows s f → Belongs s c h → (m.draw s h).1 = (g.draw (f c)).1
  draw_shows : ∀ {s f c h}, Shows s f → Belongs s c h →
    Shows (m.draw s h).2 (Function.update f c (g.draw (f c)).2)
  draw_keeps : ∀ {s c h}, Belongs s c h → ∀ other, Belongs (m.draw s other).2 c h
  restore_shows : ∀ {s f}, Shows s f → ∀ other, Shows (m.restore other (m.saved s)) f

namespace KeepsApart

variable {m : Manager g.Number} (k : KeepsApart m) {s : Session m} {t : Session (generators g)}

/-- Two sessions in which the same was done. -/
structure Alike (s : Session m) (t : Session (generators g)) : Prop where
  shows : k.Shows s.state t.state
  belongs : ∀ stream ∈ s.held, k.Belongs s.state stream.1 stream.2
  held : t.held = s.held.map fun stream => (stream.1, stream.1)
  saves : List.Forall₂ (fun kept f => ∀ other, k.Shows (m.restore other kept) f) s.saves t.saves
  log : s.log = t.log

variable {k}

theorem Alike.take (alike : k.Alike s t) (context : String) :
    k.Alike (s.take context) (t.take context) := by
  refine ⟨k.handOut_shows alike.shows context, fun stream member => ?_, ?_, alike.saves, alike.log⟩
  · rcases List.mem_append.mp member with before | new
    · exact k.handOut_keeps (alike.belongs stream before) context
    · rw [List.mem_singleton.mp new]
      exact k.handOut_belongs s.state context
  · rw [Session.take, Session.take, List.map_append, alike.held]
    rfl

theorem Alike.drawFrom (alike : k.Alike s t) {stream : String × m.Handle} (held : stream ∈ s.held) :
    k.Alike (s.drawFrom stream) (t.drawFrom (stream.1, stream.1)) := by
  have belongs := alike.belongs stream held
  refine ⟨k.draw_shows alike.shows belongs, fun other member => ?_, alike.held, alike.saves, ?_⟩
  · exact k.draw_keeps (alike.belongs other member) stream.2
  · have number := k.draw_gives alike.shows belongs
    exact congrArg₂ (fun log x => log ++ [(stream.1, x)]) alike.log number

theorem Alike.serve (alike : k.Alike s t) (r : Request) : k.Alike (s.serve r) (t.serve r) := by
  cases r with
  | stream context => exact alike.take context
  | ruleStream ruleId => exact alike.take (Streams.ruleContext ruleId)
  | draw i =>
    rw [Session.serve, Session.serve, alike.held, List.getElem?_map]
    cases found : s.held[i]? with
    | none => exact alike
    | some stream => exact alike.drawFrom (List.mem_of_getElem? found)
  | save =>
    refine ⟨alike.shows, alike.belongs, alike.held, ?_, alike.log⟩
    exact List.rel_append alike.saves (.cons (k.restore_shows alike.shows) .nil)

theorem Alike.step (alike : k.Alike s t) (x : Step) : k.Alike (s.step x) (t.step x) := by
  cases x with
  | request r => exact alike.serve r
  | restore i =>
    rw [Session.step, Session.step]
    rcases Nat.lt_or_ge i s.saves.length with there | beyond
    · have other : i < t.saves.length := alike.saves.length_eq ▸ there
      rw [List.getElem?_eq_getElem there, List.getElem?_eq_getElem other]
      refine ⟨alike.saves.get there other s.state, nofun, rfl, alike.saves, alike.log⟩
    · have other : t.saves.length ≤ i := alike.saves.length_eq ▸ beyond
      rw [List.getElem?_eq_none beyond, List.getElem?_eq_none other]
      exact alike

theorem Alike.run (alike : k.Alike s t) (steps : List Step) :
    k.Alike (s.run steps) (t.run steps) := by
  induction steps generalizing s t with
  | nil => exact alike
  | cons x rest ih => exact ih (alike.step x)

variable (k)

variable {state : m.State} {f : String → g.State}

theorem alike_session (shows : k.Shows state f) :
    k.Alike (m.session state) ((generators g).session f) :=
  ⟨shows, nofun, rfl, .nil, rfl⟩

theorem log_eq (shows : k.Shows state f) (script : List Request) :
    m.log state script = g.draws f (drawn [] script) :=
  ((k.alike_session shows).run _).log.trans (log_generators f script)

/-- Whatever is done, every context has a state that its next draws come from. -/
theorem exists_shown (shows : k.Shows state f) (steps : List Step) :
    ∃ f, k.Shows ((m.session state).run steps).state f :=
  ⟨_, ((k.alike_session shows).run steps).shows⟩

theorem log_restore (shows : k.Shows state f) (other : m.State) (script : List Request) :
    m.log (m.restore other (m.saved state)) script = m.log state script :=
  (k.log_eq (k.restore_shows shows other) script).trans (k.log_eq shows script).symm

end KeepsApart

/-- Two managers that keep contexts apart, of the same generators, give the same numbers. -/
theorem log_alike {m n : Manager g.Number} (k : KeepsApart m) (l : KeepsApart n) {s : m.State}
    {t : n.State} {f : String → g.State} (first : k.Shows s f) (second : l.Shows t f)
    (steps : List Step) : ((m.session s).run steps).log = ((n.session t).run steps).log :=
  ((k.alike_session first).run steps).log.trans ((l.alike_session second).run steps).log.symm

end GrowthGrammar
