/-
# Laws for stored tokens

A `TokenLaw` restricts the clock and the stored access tokens. Tasks that behave keep it together,
in whatever order they make their calls (`Pool.Run.underLaw`), and so do the requests of an
application (`Pool.Run.requests_underLaw`):

| what may change a stored token | why the law is kept |
| --- | --- |
| the note of a use | the token was found under the law, and the law is kept by uses |
| an insertion | by assumption on the run: what is put in is under the law |
| a deletion | nothing is left that could break it |

A request under a law may be abandoned only if there is a token under the law whose spans cannot be
added up (`TokenLaw.Stops`).
-/

import TokenAuthority.Proofs.Frame
import TokenAuthority.Proofs.Requests

namespace TokenAuthority

open Resource (AccessToken)
open Time (Instant)

/-- What clocks and stored access tokens are like. -/
structure TokenLaw where
  clock : Instant → Prop
  token : AccessToken → Prop

namespace TokenLaw

variable {α : Type} {law : TokenLaw} {timeout : Option UInt64} {w : World}

/-- A world is under the law. -/
structure Holds (law : TokenLaw) (w : World) : Prop where
  clock : law.clock w.clock
  token : ∀ name stored, w.accessTokens.find? name = some stored → law.token stored

/-- What is put in, if an access token is put in, is under the law. -/
def Admits (law : TokenLaw) (x : Exchange) : Prop :=
  ∀ object stored, x = ⟨.store .accessTokens (.insert object), .ok stored⟩ → law.token object

/-- Uses with an inactivity timeout, if there is one, keep the law. -/
def KeptByUse (law : TokenLaw) (timeout : Option UInt64) : Prop :=
  ∀ seconds stored now, timeout = some seconds → law.token stored → law.clock now →
    law.token (stored.used now seconds)

/-- There is a token under the law whose spans cannot be added up. -/
def Stops (law : TokenLaw) : Prop :=
  ∃ stored now, law.token stored ∧ law.clock now ∧ stored.inForce? now = none

/-- What is left of a task that behaves, when it has met only worlds under the law. -/
def Guides (law : TokenLaw) (timeout : Option UInt64) (t : Task α) : Prop :=
  ∃ heard, t.Behaves timeout heard ∧ (∀ stored, Exchange.Finds heard stored → law.token stored) ∧
    ∀ now, Exchange.Reads heard now → law.clock now

/-- A task that behaves, and has heard nothing, is guided by any law. -/
theorem Guides.of_behaves {t : Task α} (ht : t.Behaves timeout []) : law.Guides timeout t :=
  ⟨[], ht, fun _ ⟨_, found⟩ => absurd found List.not_mem_nil,
    fun _ read => absurd read List.not_mem_nil⟩

/-- A call keeps the law unless it breaks it by the note of a use. -/
theorem Holds.perform (holds : law.Holds w) {c : Call} (admits : law.Admits ⟨c, (w.perform c).1⟩)
    (replaces : ∀ object, c = .store .accessTokens (.replace object) → law.token object) :
    law.Holds (w.perform c).2 := by
  refine ⟨?_, fun name stored found => ?_⟩
  · rw [World.clock_perform]
    exact holds.clock
  · obtain same | ⟨op, rfl, store⟩ := w.store_perform .accessTokens c
    · exact holds.token name stored ((congrArg (·.find? name) same).symm.trans found)
    · replace found := (congrArg (·.find? name) store).symm.trans found
      obtain old | ⟨rfl, free⟩ | ⟨rfl, -⟩ := Store.of_find?_perform found
      · exact holds.token name stored old
      · have inserted := Store.perform_insert_of_free free
        exact admits stored stored
          (congrArg (fun r => Exchange.mk (.store .accessTokens (.insert stored)) r.1) inserted)
      · exact replaces stored rfl

/-- **The next call of a task that is guided by the law keeps the law.** -/
theorem Guides.call (uses : law.KeptByUse timeout) (holds : law.Holds w) {c : Call}
    {next : c.Answer → Task α} (guided : law.Guides timeout (.call c next))
    (admits : law.Admits ⟨c, (w.perform c).1⟩) :
    law.Holds (w.perform c).2 ∧ law.Guides timeout (next (w.perform c).1) := by
  obtain ⟨heard, ⟨replaces, goes⟩, legal, timely⟩ := guided
  constructor
  · refine holds.perform admits fun object replaced => ?_
    obtain ⟨stored, now, seconds, found, read, limit, rfl⟩ := replaces object replaced
    exact uses seconds stored now limit (legal stored found) (timely now read)
  · refine ⟨_, goes _, fun stored found => ?_, fun now read => ?_⟩
    · obtain ⟨name, found⟩ := found
      rcases List.mem_cons.1 found with first | earlier
      · obtain ⟨rfl, answer⟩ := Exchange.mk.inj first
        exact holds.token name stored (eq_of_heq answer).symm
      · exact legal stored ⟨name, earlier⟩
    · rcases List.mem_cons.1 read with first | earlier
      · obtain ⟨rfl, answer⟩ := Exchange.mk.inj first
        rw [eq_of_heq answer]
        exact holds.clock
      · exact timely now earlier

/-- Where a guided task is abandoned, there is a token under the law that stops it. -/
theorem Guides.stops (guided : law.Guides timeout (.abandoned : Task α)) : law.Stops := by
  obtain ⟨heard, ⟨stored, now, found, read, undecided⟩, legal, timely⟩ := guided
  exact ⟨stored, now, legal stored found, timely now read, undecided⟩

end TokenLaw

namespace Pool

variable {ι α : Type} [DecidableEq ι] {law : TokenLaw} {timeout : Option UInt64} {s s' : Pool ι α}

/-- An event that admits only tokens under the law keeps the world under the law, and the tasks
guided by it. -/
theorem Step.guided {e : Event ι} (step : Step s e s') (uses : law.KeptByUse timeout)
    (holds : law.Holds s.world) (guided : ∀ i, law.Guides timeout (s.tasks i))
    (ticks : ∀ clock, e = .tick clock → law.clock clock)
    (admits : ∀ i x, e = .exchange i x → law.Admits x) :
    law.Holds s'.world ∧ ∀ i, law.Guides timeout (s'.tasks i) := by
  cases step with
  | tick clock => exact ⟨⟨ticks clock rfl, holds.token⟩, guided⟩
  | @exchange i c next calls =>
    obtain ⟨kept, later⟩ := (calls ▸ guided i).call uses holds (admits i _ rfl)
    rw [world_advance calls]
    refine ⟨kept, fun j => ?_⟩
    by_cases same : j = i
    · subst same
      rw [tasks_advance calls]
      exact later
    · rw [tasks_advance_of_ne s same]
      exact guided j

/-- A run that admits only tokens under the law keeps the world under the law, and the tasks guided
by it. -/
theorem Run.guided {es : List (Event ι)} (run : Run s es s') (uses : law.KeptByUse timeout)
    (holds : law.Holds s.world) (guided : ∀ i, law.Guides timeout (s.tasks i))
    (ticks : ∀ clock, .tick clock ∈ es → law.clock clock)
    (admits : ∀ i x, .exchange i x ∈ es → law.Admits x) :
    law.Holds s'.world ∧ ∀ i, law.Guides timeout (s'.tasks i) := by
  induction run with
  | nil s => exact ⟨holds, guided⟩
  | cons step run ih =>
    obtain ⟨holds, guided⟩ := step.guided uses holds guided
      (fun clock ticked => ticks clock (ticked ▸ List.mem_cons_self))
      fun i x made => admits i x (made ▸ List.mem_cons_self)
    exact ih holds guided (fun clock mem => ticks clock (List.mem_cons_of_mem _ mem))
      fun i x mem => admits i x (List.mem_cons_of_mem _ mem)

/-- **Any number of requests at the same time keep a law** that is kept by uses of tokens: at every
moment the world is under it, and no request is abandoned without a cause. -/
theorem Run.underLaw {es : List (Event ι)} (run : Run s es s') (uses : law.KeptByUse timeout)
    (holds : law.Holds s.world) (behave : ∀ i, (s.tasks i).Behaves timeout [])
    (ticks : ∀ clock, .tick clock ∈ es → law.clock clock)
    (admits : ∀ i x, .exchange i x ∈ es → law.Admits x) :
    law.Holds s'.world ∧ ∀ i, s'.tasks i = .abandoned → law.Stops := by
  obtain ⟨holds, guided⟩ := run.guided uses holds (fun i => .of_behaves (behave i)) ticks admits
  exact ⟨holds, fun i abandoned => TokenLaw.Guides.stops (abandoned ▸ guided i)⟩

/-- **The requests of an application keep every law that is kept by uses with its timeout.** -/
theorem Run.requests_underLaw {settings : Settings} {tokens : List StaticToken}
    {policy : List PolicyRule} {post : Webhook.Transport Task}
    {configuration : String → ExceptT String Task (Option String)} {app : App Task} {w w' : World}
    (assembled : (App.assemble settings tokens policy post configuration).run w =
      (some (.ok app), w'))
    (inert : ∀ url seconds review, ∃ reply, post url seconds review = .done reply)
    {requests : ι → Http.Request} {s₀ s : Pool ι Http.Response} {es : List (Event ι)}
    (begins : ∀ i, s₀.tasks i = app.answer (requests i)) (run : Run s₀ es s)
    (uses : law.KeptByUse settings.authentication.inactivityTimeout) (holds : law.Holds s₀.world)
    (ticks : ∀ clock, .tick clock ∈ es → law.clock clock)
    (admits : ∀ i x, .exchange i x ∈ es → law.Admits x) :
    law.Holds s.world ∧ ∀ i, s.tasks i = .abandoned → law.Stops := by
  have parts := App.partsBehave_of_assemble assembled inert
  refine run.underLaw uses holds (fun i => ?_) ticks admits
  rw [begins]
  exact App.behaves_answer parts (requests i)

end Pool

end TokenAuthority
