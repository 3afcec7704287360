import RoleDaemon.Proofs.Metrics.Flags
import RoleDaemon.Service.Handle

/-!
# What the Operations of a Handle Can Do

Each operation of a handle is described once, by all its cases; later proofs cite the cases and do not
open the operations.

Main statements:
- `Handle.wait_cases`: what waiting for a service can do
- `Handle.wait_result`: the result of a wait does not depend on when it is waited
- `Seat.startFault?`, `Seat.occupy`: whether a service can be started, and what it takes then
- `Handle.start_new`: what the first start can do
-/

namespace RoleDaemon

open Metrics Net

namespace Handle

/-! ## §1 Waiting -/

/-- Giving back what a service holds leaves the metrics as they are. -/
@[simp] theorem release_metrics (machine : Machine) (state : Running) :
    (release machine state).metrics = machine.metrics := by
  unfold release
  cases state.listener? <;> cases state.task? <;> rfl

/-- The result that waiting for a service comes to. -/
def verdict (handle : Handle) : Except LoopFault Unit :=
  if handle.isSettled then .ok () else handle.outcome

/-- A stop does not change the result. -/
@[simp] theorem verdict_stop (handle : Handle) : handle.stop.verdict = handle.verdict := rfl

/-- Waiting returns at once where nobody has to wait, does not return as long as the loop cannot end,
    and otherwise returns with the loop at its end. -/
theorem wait_cases (handle : Handle) (machine : Machine) :
    (handle.isSettled ∧ handle.wait machine = (handle, machine, some handle.verdict)) ∨
    (¬ handle.isSettled ∧ ∃ state, handle.phase = .running state ∧
      ((handle.canEnd = false ∧
          handle.wait machine = ({ handle with awaited := true }, machine, none)) ∨
        (handle.canEnd = true ∧
          handle.wait machine = ({ handle with phase := .ended state.port, awaited := true },
            release machine state, some handle.verdict)))) ∨
    (¬ handle.isSettled ∧ ∃ port, handle.phase = .ended port ∧
      handle.wait machine = ({ handle with awaited := true }, machine, some handle.verdict)) := by
  by_cases hsettled : handle.isSettled
  · exact .inl ⟨hsettled, by simp [wait, verdict, hsettled]⟩
  · right
    cases hphase : handle.phase with
    | idle => simp [isSettled, hphase] at hsettled
    | refused => simp [isSettled, hphase] at hsettled
    | running state =>
      refine .inl ⟨hsettled, state, rfl, ?_⟩
      cases hend : handle.canEnd with
      | false => exact .inl ⟨rfl, by simp [wait, hsettled, endLoop, hphase, hend, isRunning]⟩
      | true =>
        refine .inr ⟨rfl, ?_⟩
        simp only [wait, hsettled, endLoop, hphase, hend, isRunning, verdict]
        rfl
    | ended port =>
      refine .inr ⟨hsettled, port, rfl, ?_⟩
      simp only [wait, hsettled, endLoop, hphase, isRunning, verdict]
      rfl

/-- Waiting changes neither whose service it is nor the metrics. -/
theorem wait_frame (handle : Handle) (machine : Machine) :
    (handle.wait machine).1.role = handle.role ∧
      (handle.wait machine).2.1.metrics = machine.metrics := by
  obtain ⟨-, h⟩ | ⟨-, state, -, ⟨-, h⟩ | ⟨-, h⟩⟩ | ⟨-, port, -, h⟩ := handle.wait_cases machine
  · rw [h]; exact ⟨rfl, rfl⟩
  · rw [h]; exact ⟨rfl, rfl⟩
  · rw [h]; exact ⟨rfl, release_metrics machine state⟩
  · rw [h]; exact ⟨rfl, rfl⟩

/-- Whenever waiting returns, it does so with the same result. -/
theorem wait_result {handle handle' : Handle} {machine machine' : Machine}
    {result : Except LoopFault Unit} (h : handle.wait machine = (handle', machine', some result)) :
    result = handle.verdict := by
  obtain ⟨-, h'⟩ | ⟨-, state, -, ⟨-, h'⟩ | ⟨-, h'⟩⟩ | ⟨-, port, -, h'⟩ := handle.wait_cases machine
  all_goals
    rw [h] at h'
    simp only [Prod.mk.injEq, Option.some.injEq, reduceCtorEq, and_false] at h'
  · exact h'.2.2
  · exact h'.2.2
  · exact h'.2.2

/-- Once it was stopped, waiting for a service returns. -/
theorem wait_of_stopRequested {handle : Handle} (hstop : handle.stopRequested) (machine : Machine) :
    ∃ handle' machine', handle.wait machine = (handle', machine', some handle.verdict) := by
  obtain ⟨-, h⟩ | ⟨-, state, hphase, ⟨hend, -⟩ | ⟨-, h⟩⟩ | ⟨-, port, -, h⟩ :=
    handle.wait_cases machine
  · exact ⟨_, _, h⟩
  · simp [canEnd, isRunning, hphase, hstop] at hend
  · exact ⟨_, _, h⟩
  · exact ⟨_, _, h⟩

end Handle

/-! ## §2 Starting -/

/-- Why the service of a role cannot be started at a seat, next to the given listeners. -/
def Seat.startFault? (seat : Seat) (role : Role) (sockets : Sockets) : Option Cause :=
  match seat with
  | .memory _ fault? => fault?
  | .network endpoint =>
    match sockets.listen endpoint with
    | .error fault => some ⟨"Failed to bind " ++ role.name ++ " service on " ++ endpoint.text,
        [fault.message]⟩
    | .ok _ => none

/-- The listeners once a service was started at a seat. -/
def Seat.occupy (seat : Seat) (sockets : Sockets) : Sockets :=
  match seat with
  | .memory _ _ => sockets
  | .network endpoint =>
    match sockets.listen endpoint with
    | .error _ => sockets
    | .ok (_, occupied) => occupied

namespace Handle

/-- The first start of a service fails for the reason that its seat gives and changes nothing else, or
    it succeeds, takes the seat and keeps the flags. -/
theorem start_new (role : Role) (tasks : Nat) (binding : Binding) (now : Timestamp)
    (machine : Machine) :
    match binding.seat.startFault? role machine.sockets with
    | some cause => (new role tasks binding).start now machine =
        ({ new role tasks binding with phase := .refused }, machine, .error cause)
    | none => ∃ state machine', (new role tasks binding).start now machine =
          ({ new role tasks binding with phase := .running state }, machine', .ok ()) ∧
        machine'.sockets = binding.seat.occupy machine.sockets ∧
        machine.metrics.KeepsFlags machine'.metrics := by
  obtain ⟨seat, loop⟩ := binding
  cases seat with
  | memory port fault? =>
    cases fault? with
    | some fault => rfl
    | none => exact ⟨⟨port, none, none⟩, machine, rfl, rfl, Registry.KeepsFlags.refl _⟩
  | network endpoint =>
    cases hlisten : machine.sockets.listen endpoint with
    | error fault =>
      simp only [Seat.startFault?, hlisten, start, new, startNetwork]
    | ok opened =>
      obtain ⟨listener, sockets⟩ := opened
      simp only [Seat.startFault?, Seat.occupy, hlisten, start, new, startNetwork]
      exact ⟨_, _, rfl, rfl, Registry.keepsFlags_increment machine.metrics _ _⟩

end Handle

end RoleDaemon
