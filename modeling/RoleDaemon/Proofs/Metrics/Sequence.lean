import RoleDaemon.Proofs.Environment.Pages

/-!
# Sequences of Actions

A registry after any actions, with what each of them was told.  A registration is told why it is refused,
and a write whether it was the first one; beside this stands the metric that the action is about, as it
reads right afterwards.

Main definitions:
- `Action.reply`: what an action is told
- `Registry.step`, `Registry.steps`: a registry after one action and after several
- `Registry.replies`: what the actions of a sequence are told
- `Registry.reached`: the metrics of a process after any events

Main statements:
- `Registry.Sound.steps`: a sequence keeps a registry sound
- `Registry.sound_reached`, `Registry.prefix_identity_reached`: what holds of the metrics of every process
-/

namespace RoleDaemon.Metrics

/-! ## §1 Replies -/

/-- What an action is told, and the metric that it is about, as it is afterwards. -/
structure Reply where
  answer : Except Cause Bool
  metric? : Option Family

namespace Action

/-- The answer to an action: a refused registration is told the cause. -/
def answer (registry : Registry) : Action → Except Cause Bool
  | register family => (registry.declare family).map fun _ => true
  | action => .ok (action.run registry).1

def reply (registry : Registry) (action : Action) : Reply :=
  { answer := action.answer registry
    metric? := action.target.1.bind fun kind =>
      (action.run registry).2.find? kind action.target.2 }

end Action

/-! ## §2 Sequences -/

namespace Registry

/-- The registry after an action, as in a book; an action that is not possible does nothing. -/
def step (registry : Registry) (action : Action) : Registry :=
  (Book.act ⟨registry, []⟩ action).registry

/-- The reply to an action, where it is possible. -/
def reply? (registry : Registry) (action : Action) : Option Reply :=
  if action.isPossible registry then some (action.reply registry) else none

def steps (registry : Registry) (actions : List Action) : Registry :=
  actions.foldl step registry

/-- The actions of a sequence, each with its reply. -/
def replies (registry : Registry) : List Action → List (Action × Option Reply)
  | [] => []
  | action :: later => (action, registry.reply? action) :: (registry.step action).replies later

theorem step_eq (registry : Registry) (action : Action) :
    registry.step action =
      if action.isPossible registry then (action.run registry).2 else registry := by
  unfold step Book.act
  split <;> rfl

@[simp] theorem steps_nil (registry : Registry) : registry.steps [] = registry := rfl

@[simp] theorem steps_cons (registry : Registry) (action : Action) (later : List Action) :
    registry.steps (action :: later) = (registry.step action).steps later := rfl

/-- The trace of the calls is no part of it. -/
@[simp] theorem trace_steps (registry : Registry) (actions : List Action) :
    (registry.steps actions).trace = registry.trace := by
  induction actions generalizing registry with
  | nil => rfl
  | cons action later ih => rw [steps_cons, ih, step, Book.trace_act]

theorem Sound.step {registry : Registry} (h : registry.Sound) (action : Action) :
    (registry.step action).Sound :=
  Book.sound_act h action

theorem Sound.steps {registry : Registry} (h : registry.Sound) (actions : List Action) :
    (registry.steps actions).Sound := by
  induction actions generalizing registry with
  | nil => exact h
  | cons action later ih => exact ih (h.step action)

end Registry

/-! ## §3 The Metrics of a Process -/

namespace Registry

/-- The metrics of a new process after any events. -/
def reached (taken : List Net.Endpoint) (events : List ProcessEvent) : Registry :=
  (ProcessEvent.runAll (.fresh taken) events).metrics

theorem sound_reached (taken : List Net.Endpoint) (events : List ProcessEvent) :
    (reached taken events).Sound :=
  (IsKept.runAll ⟨.empty, .empty⟩ events).sound

/-- No event removes a metric or changes the order of the metrics. -/
theorem prefix_identity_reached (taken : List Net.Endpoint) (earlier later : List ProcessEvent) :
    (reached taken earlier).families.map Family.identity <+:
      (reached taken (earlier ++ later)).families.map Family.identity := by
  have hkept := ProcessEvent.runAll_keep
    (P := fun registry => (reached taken earlier).families.map Family.identity <+:
      registry.families.map Family.identity)
    (fun book action h => h.trans (book.prefix_identity_act action)) (fun _ _ h => h)
    List.prefix_rfl later
  have hevents : reached taken (earlier ++ later) =
      (ProcessEvent.runAll (ProcessEvent.runAll (.fresh taken) earlier) later).metrics :=
    congrArg Machine.metrics List.foldl_append
  rwa [hevents]

end Registry

end RoleDaemon.Metrics
