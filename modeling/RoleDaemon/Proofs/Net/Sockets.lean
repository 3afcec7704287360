import RoleDaemon.Net.Sockets
import Mathlib.Data.List.Perm.Basic

/-!
# Listeners of One's Own

A listener is opened beside those that are there, none of which stands at the same endpoint, so that
closing it again leaves the others.  As long as it is open nobody else takes its place, so that the place
is free once it is closed.

Main definitions:
- `Endpoint.Settles`: where listening on an endpoint can lead to
- `Sockets.HoldsAlone`: nobody else stands in the place of a listener

Main statements:
- `Sockets.listen_ok`: what opening a listener does
- `Sockets.close_own`: what closing it does
- `Sockets.listen_of_settles`: a free place can be taken
- `Sockets.HoldsAlone.listen`, `Sockets.HoldsAlone.close`: what others do leaves a place taken alone
-/

namespace RoleDaemon.Net

/-! ## §1 Listeners -/

theorem Address.overlaps_self (address : Address) : address.overlaps address := by
  simp [overlaps, includes]

theorem Address.overlaps_comm (a b : Address) : a.overlaps b = b.overlaps a :=
  Bool.or_comm ..

namespace Sockets

/-- A listener stands in the way of its own endpoint. -/
theorem isTaken_of_mem {sockets : Sockets} {endpoint : Endpoint}
    (h : endpoint ∈ sockets.listening) : sockets.isTaken endpoint := by
  apply List.any_eq_true.2
  exact ⟨endpoint, h, by simp [Address.overlaps_self]⟩

/-- An endpoint that is settled on is not taken. -/
theorem not_isTaken_of_settle? {sockets : Sockets} {endpoint settled : Endpoint}
    (h : sockets.settle? endpoint = some settled) : ¬ sockets.isTaken settled := by
  unfold settle? at h
  split at h
  · have hfound := List.find?_some h
    simpa using hfound
  · split at h
    · cases h
    · rename_i hfree
      cases h
      exact hfree

/-- Listening succeeds at an endpoint that is not reserved, where the system settles on a listener. -/
theorem settle?_of_listen {sockets sockets' : Sockets} {endpoint listener : Endpoint}
    (h : sockets.listen endpoint = .ok (listener, sockets')) :
    ¬ (endpoint.port ≠ 0 ∧ endpoint.port < 1024) ∧ sockets.settle? endpoint = some listener ∧
      sockets'.listening = sockets.listening ++ [listener] := by
  unfold listen at h
  split at h
  · cases h
  · rename_i hallowed
    split at h
    · rename_i settled hsettled
      cases h
      exact ⟨hallowed, hsettled, rfl⟩
    · cases h

/-- A new listener is opened where nobody stands. -/
theorem not_isTaken_of_listen {sockets sockets' : Sockets} {endpoint listener : Endpoint}
    (h : sockets.listen endpoint = .ok (listener, sockets')) : ¬ sockets.isTaken listener :=
  not_isTaken_of_settle? (settle?_of_listen h).2.1

/-- A new listener comes behind the others, and none of them stands at the same endpoint. -/
theorem listen_ok {sockets sockets' : Sockets} {endpoint listener : Endpoint}
    (h : sockets.listen endpoint = .ok (listener, sockets')) :
    listener ∉ sockets.listening ∧ sockets'.listening = sockets.listening ++ [listener] :=
  ⟨fun hmem => not_isTaken_of_listen h (isTaken_of_mem hmem), (settle?_of_listen h).2.2⟩

/-- Closing a listener of one's own leaves the listeners of others, and one's own others. -/
theorem close_own {sockets : Sockets} {taken opened held : List Endpoint} {listener : Endpoint}
    (hlistening : sockets.listening = taken ++ opened) (hopened : opened.Perm (listener :: held))
    (hforeign : listener ∉ taken) :
    (sockets.close listener).listening = taken ++ opened.erase listener ∧
      (opened.erase listener).Perm held := by
  constructor
  · rw [close, hlistening, List.erase_append_right _ hforeign]
  · have herased := hopened.erase listener
    rwa [List.erase_cons_head] at herased

/-! ## §2 Places -/

/-- The system gives away neither port 0 nor reserved ports. -/
theorem not_reserved_of_mem {port : UInt16} (h : port ∈ ephemeralPorts) : 1024 ≤ port := by
  obtain ⟨n, hn, rfl⟩ := List.mem_map.1 h
  have hsmall : n < 61000 - 32768 := List.mem_range.1 hn
  rw [UInt16.le_iff_toNat_le]
  simp only [Nat.toUInt16, UInt16.toNat_ofNat']
  rw [Nat.mod_eq_of_lt (by omega)]
  have hlower : (1024 : UInt16).toNat = 1024 := rfl
  omega

end Sockets

/-- Listening on the endpoint can lead to the listener: to the endpoint itself, or, where it has no port,
    to one of the ports that the system gives away. -/
structure Endpoint.Settles (endpoint listener : Endpoint) : Prop where
  address : listener.address = endpoint.address
  unreserved : 1024 ≤ listener.port
  choice : listener = endpoint ∨ endpoint.port = 0 ∧ listener.port ∈ Sockets.ephemeralPorts

namespace Endpoint.Settles

variable {endpoint listener : Endpoint}

theorem port_ne_zero (h : endpoint.Settles listener) : listener.port ≠ 0 := by
  intro hzero
  have hport := h.unreserved
  rw [hzero] at hport
  exact absurd hport (by decide)

/-- A listener can be listened on as it is. -/
theorem self (h : endpoint.Settles listener) : listener.Settles listener :=
  ⟨rfl, h.unreserved, .inl rfl⟩

end Endpoint.Settles

namespace Sockets

variable {sockets sockets' : Sockets} {endpoint listener other : Endpoint}

theorem settles_of_listen (h : sockets.listen endpoint = .ok (listener, sockets')) :
    endpoint.Settles listener := by
  obtain ⟨hallowed, hsettled, -⟩ := settle?_of_listen h
  unfold settle? at hsettled
  split at hsettled
  · rename_i hzero
    obtain ⟨port, hport, rfl⟩ := List.mem_map.1 (List.mem_of_find?_eq_some hsettled)
    exact ⟨rfl, not_reserved_of_mem hport, .inr ⟨hzero, hport⟩⟩
  · rename_i hport
    split at hsettled
    · cases hsettled
    · cases hsettled
      exact ⟨rfl, UInt16.not_lt.1 fun hlow => hallowed ⟨hport, hlow⟩, .inl rfl⟩

/-- Where nobody stands, an endpoint can be listened on. -/
theorem listen_of_settles (h : endpoint.Settles listener) (hfree : ¬ sockets.isTaken listener) :
    ∃ opened sockets', sockets.listen endpoint = .ok (opened, sockets') := by
  have hallowed : ¬ (endpoint.port ≠ 0 ∧ endpoint.port < 1024) := by
    rintro ⟨hport, hlow⟩
    obtain rfl | ⟨hzero, -⟩ := h.choice
    · exact UInt16.not_lt.2 h.unreserved hlow
    · exact hport hzero
  obtain ⟨opened, hopened⟩ : ∃ opened, sockets.settle? endpoint = some opened := by
    unfold settle?
    obtain rfl | ⟨hzero, hport⟩ := h.choice
    · exact ⟨listener, by rw [if_neg h.port_ne_zero, if_neg hfree]⟩
    · -- the system finds at least the port of the listener
      rw [if_pos hzero]
      apply Option.isSome_iff_exists.1
      rw [List.find?_isSome]
      refine ⟨{ endpoint with port := listener.port }, List.mem_map_of_mem hport, ?_⟩
      rw [← h.address]
      simpa using hfree
  exact ⟨opened, ⟨sockets.listening ++ [opened]⟩, by rw [listen, if_neg hallowed, hopened]⟩

/-- Where nobody stands, a listener can be opened again. -/
theorem listen_self (h : endpoint.Settles listener) (hfree : ¬ sockets.isTaken listener) :
    ∃ sockets', sockets.listen listener = .ok (listener, sockets') := by
  obtain ⟨opened, sockets', hopened⟩ := listen_of_settles h.self hfree
  have hsettled := settles_of_listen hopened
  obtain rfl | ⟨hzero, -⟩ := hsettled.choice
  · exact ⟨sockets', hopened⟩
  · exact absurd hzero h.port_ne_zero

/-- The listener is open, and no other one stands in its way. -/
structure HoldsAlone (sockets : Sockets) (listener : Endpoint) : Prop where
  mem : listener ∈ sockets.listening
  alone : ¬ (sockets.close listener).isTaken listener

theorem holdsAlone_of_listen (h : sockets.listen endpoint = .ok (listener, sockets')) :
    sockets'.HoldsAlone listener := by
  obtain ⟨hforeign, hlistening⟩ := listen_ok h
  have hclosed : sockets'.close listener = sockets := by
    rw [close, hlistening, List.erase_append_right _ hforeign]
    simp
  refine ⟨by rw [hlistening]; exact List.mem_append_right _ (List.mem_singleton_self _), ?_⟩
  rw [hclosed]
  exact not_isTaken_of_listen h

namespace HoldsAlone

/-- Others find their own places. -/
theorem listen (h : sockets.HoldsAlone listener)
    (hlisten : sockets.listen endpoint = .ok (other, sockets')) : sockets'.HoldsAlone listener := by
  obtain ⟨-, hlistening⟩ := listen_ok hlisten
  have hclosed : (sockets'.close listener).listening =
      (sockets.close listener).listening ++ [other] := by
    simp only [close, hlistening]
    exact List.erase_append_left _ h.mem
  refine ⟨by rw [hlistening]; exact List.mem_append_left _ h.mem, ?_⟩
  unfold isTaken
  rw [hclosed, List.any_append, Bool.or_eq_true]
  rintro (hold | hnew)
  · exact h.alone hold
  · -- who stands in the way of a listener would find it in the way too
    obtain ⟨hport, hoverlaps⟩ : other.port = listener.port ∧ other.address.overlaps listener.address := by
      simpa using hnew
    apply not_isTaken_of_listen hlisten
    apply List.any_eq_true.2
    exact ⟨listener, h.mem, by simp [hport, Address.overlaps_comm listener.address, hoverlaps]⟩

/-- Others close listeners of their own. -/
theorem close (h : sockets.HoldsAlone listener) (hother : other ≠ listener) :
    (sockets.close other).HoldsAlone listener := by
  refine ⟨(List.mem_erase_of_ne hother.symm).2 h.mem, fun htaken => h.alone ?_⟩
  obtain ⟨stranger, hmem, hway⟩ := List.any_eq_true.1 htaken
  apply List.any_eq_true.2
  refine ⟨stranger, ?_, hway⟩
  simp only [Sockets.close] at hmem ⊢
  rw [List.erase_comm] at hmem
  exact List.mem_of_mem_erase hmem

end HoldsAlone

end Sockets

end RoleDaemon.Net
