import RoleDaemon.Proofs.Metrics.Flags
import RoleDaemon.Readiness

/-!
# Readiness Flags

The flags start unset once they are registered, marking a role sets the flag of this role and no other,
and the whole daemon can be marked just when every enabled role is.

Main statements:
- `Readiness.Unset`: the three flags are registered, and none is set
- `Readiness.unset_register`: so it is in a new process
- `Readiness.flag?_markRole`: what a flag reads after a role was marked
- `Readiness.markServer_of_ready`, `Readiness.ready_of_markServer`: when the daemon can be marked
-/

namespace RoleDaemon.Readiness

open Metrics

/-- The three flags are registered, and none is set. -/
structure Unset (metrics : Registry) : Prop where
  role : ∀ role, metrics.flag? (roleFlag role) = some false
  server : metrics.flag? serverFlag = some false

theorem roleFlag_injective {r s : Role} (h : roleFlag r = roleFlag s) : r = s := by
  revert h
  cases r <;> cases s <;> decide

theorem roleFlag_ne_serverFlag (role : Role) : roleFlag role ≠ serverFlag := by
  cases role <;> decide

/-- The flags of a process in which nothing has happened can be registered. -/
theorem register_fresh (taken : List Net.Endpoint) :
    register (.fresh taken) = ({ Machine.fresh taken with metrics := ⟨families, .empty⟩ }, .ok ()) := by
  rfl

/-- Registration leaves the flags of a new process unset. -/
theorem unset_register (taken : List Net.Endpoint) :
    Unset (register (.fresh taken)).1.metrics := by
  rw [register_fresh]
  refine ⟨fun role => ?_, rfl⟩
  cases role <;> rfl

/-! ## §1 Marking a Role -/

/-- Marking a role sets its flag, and leaves all other flags as they are. -/
theorem flag?_markRole (machine : Machine) (role : Role) (name : String) :
    (markRole machine role).metrics.flag? name =
      if name = roleFlag role then (machine.metrics.flag? name).map fun _ => true
      else machine.metrics.flag? name := by
  have hset := machine.metrics.flag?_setFlag name (roleFlag role)
  unfold markRole
  split
  · rename_i first metrics hfirst
    rw [hfirst] at hset
    split <;> exact hset

/-- Marking a role changes the metrics and the log only. -/
theorem markRole_frame (machine : Machine) (role : Role) :
    (markRole machine role).sockets = machine.sockets ∧
      (markRole machine role).taskLists = machine.taskLists := by
  unfold markRole
  split
  split <;> exact ⟨rfl, rfl⟩

/-! ## §2 Marking the Daemon -/

/-- The daemon can be marked once the flag of every enabled role is set. -/
theorem markServer_of_ready {machine : Machine} {roles : EnabledRoles}
    (h : ∀ service ∈ roles.toList, isRoleReady machine.metrics service.1) :
    markServer machine roles =
      .ok { machine with metrics := (machine.metrics.setFlag serverFlag).2 } := by
  have hmissing : missing? machine.metrics roles = none := by
    apply List.find?_eq_none.2
    intro role hrole
    obtain ⟨service, hservice, rfl⟩ := List.mem_map.1 hrole
    simp [h service hservice]
  simp only [markServer, hmissing]

/-- When the daemon was marked, the flag of every enabled role was set before, and the one of the
    daemon is the only flag that was written. -/
theorem ready_of_markServer {machine machine' : Machine} {roles : EnabledRoles}
    (h : markServer machine roles = .ok machine') :
    (∀ service ∈ roles.toList, isRoleReady machine.metrics service.1) ∧
      machine' = { machine with metrics := (machine.metrics.setFlag serverFlag).2 } := by
  unfold markServer at h
  split at h
  · cases h
  · rename_i hmissing
    refine ⟨fun service hservice => ?_, (Except.ok.inj h).symm⟩
    have hfound := List.find?_eq_none.1 hmissing service.1
      (List.mem_map.2 ⟨service, hservice, rfl⟩)
    simpa using hfound

end RoleDaemon.Readiness
