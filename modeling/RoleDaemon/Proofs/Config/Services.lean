import RoleDaemon.Config.Basic
import Mathlib.Data.List.Nodup

/-!
# The Services of a Configuration

A configuration enables the roles with a port, the planner before the worker.

Main statements:
- `Config.services`: the enabled roles with their ports
- `Config.mem_services`: which these are
- `Config.validate_cases`: what the check of a configuration says, in terms of its services
-/

namespace RoleDaemon

/-- The port that a configuration gives to a role. -/
def Config.portOf (config : Config) : Role → UInt16
  | .planner => config.plannerPort
  | .worker => config.workerPort

/-- The enabled roles with their ports, the planner first. -/
def Config.services (config : Config) : List (Role × UInt16) :=
  [(.planner, config.plannerPort), (.worker, config.workerPort)].filter fun service => service.2 ≠ 0

/-- A role is enabled, at its port, just when the port is not 0. -/
theorem Config.mem_services {config : Config} {role : Role} {port : UInt16} :
    (role, port) ∈ config.services ↔ port = config.portOf role ∧ port ≠ 0 := by
  cases role <;> simp [services, portOf]

/-- No role is enabled twice. -/
theorem Config.nodup_services (config : Config) : (config.services.map Prod.fst).Nodup := by
  have hsub : (config.services.map Prod.fst).Sublist [Role.planner, Role.worker] :=
    List.filter_sublist.map Prod.fst
  exact hsub.nodup (by decide)

/-- The roles that two ports enable are the services of the configuration. -/
theorem Config.toList_of_ofPorts? {config : Config} {roles : EnabledRoles}
    (h : EnabledRoles.ofPorts? config.plannerPort config.workerPort = some roles) :
    roles.toList = config.services := by
  unfold EnabledRoles.ofPorts? at h
  unfold services
  split at h <;> split at h <;> cases h <;> simp_all [EnabledRoles.toList]

/-- The check of a configuration finds no service, or a bad host name, or the services. -/
theorem Config.validate_cases (config : Config) :
    (config.services = [] ∧ config.validate = .error .noRoleEnabled) ∨
    (config.services ≠ [] ∧ ∃ fault, Hostname.check config.hostname = .error fault ∧
      config.validate = .error (.invalidConfig fault.message)) ∨
    (config.services ≠ [] ∧ Hostname.check config.hostname = .ok () ∧
      ∃ roles, EnabledRoles.ofPorts? config.plannerPort config.workerPort = some roles ∧
        roles.toList = config.services ∧ config.validate = .ok roles) := by
  cases hroles : EnabledRoles.ofPorts? config.plannerPort config.workerPort with
  | none =>
    left
    have hnone : config.services = [] := by
      unfold EnabledRoles.ofPorts? at hroles
      unfold services
      split at hroles <;> split at hroles <;> simp_all
    exact ⟨hnone, by simp only [validate, hroles]⟩
  | some roles =>
    right
    have hlist := toList_of_ofPorts? hroles
    have hsome : config.services ≠ [] := by
      rw [← hlist]
      cases roles <;> simp [EnabledRoles.toList]
    cases hhost : Hostname.check config.hostname with
    | error fault => exact .inl ⟨hsome, fault, rfl, by simp only [validate, hroles, hhost]⟩
    | ok _ => exact .inr ⟨hsome, rfl, roles, rfl, hlist, by simp only [validate, hroles, hhost]⟩

/-- The roles that pass the check are the services of the configuration. -/
theorem Config.toList_of_validate {config : Config} {roles : EnabledRoles}
    (h : config.validate = .ok roles) : roles.toList = config.services := by
  obtain ⟨-, hvalidate⟩ | ⟨-, fault, -, hvalidate⟩ | ⟨-, -, roles', -, hroles, hvalidate⟩ :=
    config.validate_cases
  all_goals cases h.symm.trans hvalidate
  exact hroles

end RoleDaemon
