/-
# Requests at the same time

Any number of requests share one world. At any moment the clock may be set, or one of the requests
may make its next call; `Pool.Run` is a sequence of such events. A request that is in the middle of
its work is what is left of its task.

What is left depends only on the answers that the request has heard. `Task.After` says this of a
task, and `Pool.Run.tasks_of_after` of a request whose task begins with it.
-/

import Mathlib.Logic.Function.Basic
import TokenAuthority.Backend

namespace TokenAuthority

open Time (Instant)

/-- A call and what it was answered. -/
structure Exchange where
  call : Call
  answer : call.Answer

namespace Task

variable {α β : Type}

/-- What is left of a task when it has heard some answers. -/
inductive After : Task α → List Exchange → Task α → Prop where
  | nothing (p : Task α) : After p [] p
  | heard {c : Call} {next : c.Answer → Task α} {answer : c.Answer} {later : List Exchange}
      {left : Task α} (after : After (next answer) later left) :
      After (call c next) (⟨c, answer⟩ :: later) left

/-- Whether a task has no more calls to make. -/
def IsOver : Task α → Prop
  | call _ _ => False
  | _ => True

/-- What a task hears tells when it is over, and how. -/
theorem After.unique {t left left' : Task α} {before after before' after' : List Exchange}
    (first : t.After before left) (isOver : left.IsOver) (second : t.After before' left')
    (isOver' : left'.IsOver) (same : before ++ after = before' ++ after') :
    left = left' ∧ before = before' ∧ after = after' := by
  induction first generalizing before' with
  | nothing p =>
    cases second with
    | nothing => exact ⟨rfl, rfl, same⟩
    | heard => exact isOver.elim
  | heard first ih =>
    cases second with
    | nothing => exact isOver'.elim
    | heard second =>
      simp only [List.cons_append, List.cons.injEq, Exchange.mk.injEq, heq_eq_eq, true_and] at same
      obtain ⟨rfl, same⟩ := same
      obtain ⟨rfl, rfl, rfl⟩ := ih isOver second same
      exact ⟨rfl, rfl, rfl⟩

end Task

/-- What happens at one moment. -/
inductive Event (ι : Type) where
  /-- The clock is set. -/
  | tick (clock : Instant)
  /-- A request makes a call. -/
  | exchange (request : ι) (exchange : Exchange)

/-- Requests that are worked on at the same time, and the world they share. -/
structure Pool (ι α : Type) where
  world : World
  /-- What is left of each request. -/
  tasks : ι → Task α

namespace Pool

variable {ι α β : Type} [DecidableEq ι]

/-- The requests after one of them has made its next call. -/
def advance (s : Pool ι α) (i : ι) : Pool ι α where
  world := ((s.tasks i).step s.world).2
  tasks := Function.update s.tasks i ((s.tasks i).step s.world).1

/-- What an event does. -/
inductive Step : Pool ι α → Event ι → Pool ι α → Prop where
  | tick (s : Pool ι α) (clock : Instant) :
      Step s (.tick clock) { s with world := { s.world with clock } }
  | exchange {s : Pool ι α} {i : ι} {c : Call} {next : c.Answer → Task α}
      (calls : s.tasks i = .call c next) :
      Step s (.exchange i ⟨c, (s.world.perform c).1⟩) (s.advance i)

/-- What events do, one after the other. -/
inductive Run : Pool ι α → List (Event ι) → Pool ι α → Prop where
  | nil (s : Pool ι α) : Run s [] s
  | cons {s s' s'' : Pool ι α} {e : Event ι} {es : List (Event ι)} (step : Step s e s')
      (run : Run s' es s'') : Run s (e :: es) s''

/-- What a request has called and heard. -/
def dialogue (i : ι) : List (Event ι) → List Exchange
  | [] => []
  | .tick _ :: es => dialogue i es
  | .exchange j e :: es => if j = i then e :: dialogue i es else dialogue i es

/-- The dialogue of a task goes on with what it hears later. -/
theorem dialogue_append (i : ι) (es es' : List (Event ι)) :
    dialogue i (es ++ es') = dialogue i es ++ dialogue i es' := by
  induction es with
  | nil => rfl
  | cons e es ih =>
    cases e with
    | tick clock => exact ih
    | exchange j x =>
      simp only [List.cons_append, dialogue, ih]
      split <;> rfl

section Advance

variable {s : Pool ι α} {i : ι} {c : Call} {next : c.Answer → Task α}
  (calls : s.tasks i = .call c next)
include calls

/-- The world after a step is that after the call. -/
theorem world_advance : (s.advance i).world = (s.world.perform c).2 := by
  unfold advance
  rw [calls]
  rfl

/-- The task that made a call goes on with its answer. -/
theorem tasks_advance : (s.advance i).tasks i = next (s.world.perform c).1 := by
  unfold advance
  rw [calls]
  exact Function.update_self ..

end Advance

/-- All other tasks wait. -/
theorem tasks_advance_of_ne (s : Pool ι α) {i j : ι} (h : j ≠ i) :
    (s.advance i).tasks j = s.tasks j :=
  Function.update_of_ne h ..

/-- An exchange is a call that the request was about to make, with the answer and the effect that
the call has. -/
theorem Step.calls {s s' : Pool ι α} {i : ι} {c : Call} {answer : c.Answer}
    (step : Step s (.exchange i ⟨c, answer⟩) s') :
    (∃ next, s.tasks i = .call c next) ∧ answer = (s.world.perform c).1 ∧
      s'.world = (s.world.perform c).2 := by
  generalize event : Event.exchange i ⟨c, answer⟩ = e at step
  cases step with
  | tick clock => cases event
  | @exchange j call next calls =>
    obtain ⟨rfl, exchange⟩ := Event.exchange.inj event
    obtain ⟨rfl, answer⟩ := Exchange.mk.inj exchange
    exact ⟨⟨next, calls⟩, eq_of_heq answer, world_advance calls⟩

/-- A run goes on with another one. -/
theorem Run.append {s s' s'' : Pool ι α} {es es' : List (Event ι)} (first : Run s es s')
    (second : Run s' es' s'') : Run s (es ++ es') s'' := by
  induction first with
  | nil s => exact second
  | cons step run ih => exact .cons step (ih second)

/-- A run through some events is one through the first and one through the others. -/
theorem Run.of_append {s s'' : Pool ι α} {es es' : List (Event ι)} (run : Run s (es ++ es') s'') :
    ∃ s', Run s es s' ∧ Run s' es' s'' := by
  induction es generalizing s with
  | nil => exact ⟨s, .nil s, run⟩
  | cons e es ih =>
    cases run with
    | cons step run =>
      obtain ⟨s', first, second⟩ := ih run
      exact ⟨s', .cons step first, second⟩

/-- **A request does what its task does after the answers it hears.** -/
theorem Run.tasks_of_after {s s' : Pool ι α} {es : List (Event ι)} (run : Run s es s') {i : ι}
    {p left : Task β} {k : β → Task α} (begun : s.tasks i = p.bind k)
    (after : p.After (dialogue i es) left) : s'.tasks i = left.bind k := by
  induction run generalizing p with
  | nil s =>
    cases after with
    | nothing => exact begun
  | @cons s s' s'' e es step run ih =>
    cases step with
    | tick clock => exact ih begun after
    | @exchange j c next calls =>
      unfold dialogue at after
      split at after
      · rename_i same
        subst same
        cases after with
        | heard after =>
          have eq := calls.symm.trans begun
          simp only [Task.call_bind, Task.call.injEq, heq_eq_eq, true_and] at eq
          refine ih ?_ after
          rw [tasks_advance calls, eq]
      · rename_i other
        refine ih ?_ after
        rw [tasks_advance_of_ne _ (Ne.symm other), begun]

/-- What is left of a request is what its task leaves when it has heard the request's answers. -/
theorem Run.after {s s' : Pool ι α} {es : List (Event ι)} (run : Run s es s') (i : ι) :
    (s.tasks i).After (dialogue i es) (s'.tasks i) := by
  induction run with
  | nil s => exact .nothing _
  | @cons s s' s'' e es step run ih =>
    cases step with
    | tick clock => exact ih
    | @exchange j c next calls =>
      unfold dialogue
      split
      · rename_i same
        subst same
        rw [tasks_advance calls] at ih
        rw [calls]
        exact .heard ih
      · rename_i other
        rwa [tasks_advance_of_ne _ (Ne.symm other)] at ih

/-- What a task has heard are its own exchanges. -/
theorem mem_dialogue {i : ι} {x : Exchange} {es : List (Event ι)} :
    x ∈ dialogue i es ↔ .exchange i x ∈ es := by
  induction es with
  | nil => simp [dialogue]
  | cons e es ih =>
    cases e with
    | tick clock => simp [dialogue, ih]
    | exchange j y =>
      unfold dialogue
      split
      · rename_i same
        simp [same, ih]
      · rename_i other
        simp [Ne.symm other, ih]

/-- What is found under a name bears the name. -/
theorem Run.name_of_found {s s' : Pool ι α} {es : List (Event ι)} (run : Run s es s') {i : ι}
    {c : Collection} {name : String} {object : c.Object}
    (found : ⟨.store c (.find name), some object⟩ ∈ dialogue i es) : Stored.name object = name := by
  induction run with
  | nil s => cases found
  | @cons s s' s'' e es step run ih =>
    cases step with
    | tick clock => exact ih found
    | @exchange j call next calls =>
      unfold dialogue at found
      split at found
      · rcases List.mem_cons.1 found with first | later
        · obtain ⟨rfl, answer⟩ := Exchange.mk.inj first
          exact Store.name_of_find? (eq_of_heq answer).symm
        · exact ih later
      · exact ih found

end Pool

end TokenAuthority
