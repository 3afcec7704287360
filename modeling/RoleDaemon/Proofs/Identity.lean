import Mathlib.Data.List.Basic
import RoleDaemon.Identity
import RoleDaemon.Proofs.Hostname

/-!
# Identities Tell Daemons Apart

An identity is made of a host name and a port, and both are read back from it.  The last colon stands
before the port, so that it does not matter how many colons a host name holds, and the brackets around an
address of the longer family keep it apart from all other host names.

## Architecture

- `splitLast`: a text split at the last occurrence of a character
- `Identity.hostForm`: what an identity holds of a host name
- `Identity.hostAndPort?`: the reader of identities, `Identity.hostAndPort?_generate`: what it reads
- `Identity.hostForm_cases`: a host name as it stands, or a bracketed address

Main statement:
- `Identity.generate_unique`: which host names and ports have the same identity
-/

namespace RoleDaemon

open Text Net

/-! ## §1 The Last Colon -/

namespace Text

/-- What stands before the last occurrence of `sep`, and what stands behind it. -/
def splitLast (sep : Char) (cs : List Char) : Option (List Char × List Char) :=
  (after? sep (cs.reverse.dropWhile (· != sep))).map fun front =>
    (front.reverse, (cs.reverse.takeWhile (· != sep)).reverse)

theorem splitLast_append {sep : Char} {back : List Char} (h : sep ∉ back) (front : List Char) :
    splitLast sep (front ++ sep :: back) = some (front, back) := by
  have hback : ∀ c ∈ back.reverse, (c != sep) = true := by
    intro c hc
    simp only [bne_iff_ne]
    rintro rfl
    exact h (List.mem_reverse.1 hc)
  have hreverse : (front ++ sep :: back).reverse = back.reverse ++ sep :: front.reverse := by simp
  unfold splitLast
  rw [hreverse, List.dropWhile_append_of_pos hback, List.takeWhile_append_of_pos hback]
  simp [after?]

end Text

namespace Net

/-- A port is read back from its digits. -/
theorem parsePort?_decimal (port : UInt16) : parsePort? (decimal port.toNat) = some port := by
  have hsmall : port.toNat < 65536 := port.toNat_lt
  have hwidth : (Nat.toDigits 10 port.toNat).length ≤ 5 :=
    (Nat.length_toDigits_le_iff (by decide) (by decide)).2 (by omega)
  have hread := readNumber_toDigits (by decide) (by decide) hwidth true (endsDigits_nil 10)
  rw [List.append_nil] at hread
  simp [parsePort?, decimal, hread, hsmall]

theorem colon_notMem_decimal (n : Nat) : ':' ∉ decimal n := by
  intro hcolon
  have hdigit := isDigitOf_of_mem_toDigits (by decide) (by decide) hcolon
  exact absurd hdigit (by decide)

end Net

namespace Identity

/-! ## §2 Reading Identities -/

/-- What an identity holds of a host name. -/
def hostForm (hostname : String) : List Char :=
  match Address.parse? hostname with
  | some (.v6 address) => '[' :: (address.chars ++ [']'])
  | _ => hostname.toList

/-- The text in front of every host. -/
def mark : List Char := serviceName.toList ++ ['@']

theorem toList_generate (hostname : String) (port : UInt16) :
    (generate hostname port).text.toList =
      mark ++ (hostForm hostname ++ ':' :: decimal port.toNat) := by
  have haddress : networkAddress hostname port = hostForm hostname ++ ':' :: decimal port.toNat := by
    unfold networkAddress hostForm hostPort
    split <;> simp [*]
  simp [generate, haddress, mark]

/-- The host and the port of an identity: what stands between the mark and the last colon, and the number
    behind the colon. -/
def hostAndPort? (identity : Identity) : Option (List Char × UInt16) := do
  let address ← identity.text.toList.dropPrefix? mark
  let (host, digits) ← splitLast ':' address
  let port ← parsePort? digits
  some (host, port)

/-- Host and port are read back. -/
theorem hostAndPort?_generate (hostname : String) (port : UInt16) :
    (generate hostname port).hostAndPort? = some (hostForm hostname, port) := by
  have hmark : (generate hostname port).text.toList.dropPrefix? mark =
      some (hostForm hostname ++ ':' :: decimal port.toNat) := by
    rw [toList_generate]
    exact List.dropPrefix?_eq_some_iff.2 ⟨mark, rfl, by simp⟩
  simp [hostAndPort?, hmark, splitLast_append (colon_notMem_decimal port.toNat), parsePort?_decimal]

/-! ## §3 Hosts -/

/-- An identity holds an accepted host name as it stands, without colons and brackets, or the bracketed
    address that it spells. -/
theorem hostForm_cases {hostname : String} (h : Hostname.check hostname = .ok ()) :
    ((∀ address, Address.parse? hostname ≠ some (.v6 address)) ∧ hostForm hostname = hostname.toList ∧
      ∀ c ∈ hostname.toList, c ≠ ':' ∧ c ≠ '[' ∧ c ≠ ']') ∨
    ∃ address, Address.parse? hostname = some (.v6 address) ∧
      hostForm hostname = '[' :: (address.chars ++ [']']) := by
  by_cases hlong : ∃ address, Address.parse? hostname = some (.v6 address)
  · obtain ⟨address, hparse⟩ := hlong
    exact .inr ⟨address, hparse, by rw [hostForm, hparse]⟩
  · have hshort : ∀ address, Address.parse? hostname ≠ some (.v6 address) :=
      fun address hparse => hlong ⟨address, hparse⟩
    refine .inl ⟨hshort, ?_, fun c hc => ?_⟩
    · unfold hostForm
      split
      · rename_i address hparse
        exact absurd hparse (hshort address)
      · rfl
    · have hchar := Hostname.isLabelChar_of_check h hshort hc
      refine ⟨?_, ?_, ?_⟩
      all_goals
        rintro rfl
        revert hchar
        decide

/-- Host names are held alike when they are the same or spell the same address of the longer family. -/
theorem hostForm_eq_iff {hostname hostname' : String} (h : Hostname.check hostname = .ok ())
    (h' : Hostname.check hostname' = .ok ()) :
    hostForm hostname = hostForm hostname' ↔
      hostname = hostname' ∨ ∃ address, Address.parse? hostname = some (.v6 address) ∧
        Address.parse? hostname' = some (.v6 address) := by
  constructor
  · intro heq
    obtain ⟨-, hform, hchars⟩ | ⟨address, hparse, hform⟩ := hostForm_cases h <;>
      obtain ⟨-, hform', hplain⟩ | ⟨address', hparse', hform'⟩ := hostForm_cases h'
    · left
      rw [hform, hform'] at heq
      exact String.toList_inj.1 heq
    · -- a bracket does not come from a host name that is held as it stands
      rw [hform, hform'] at heq
      exact absurd rfl (hchars '[' (heq ▸ List.mem_cons_self ..)).2.1
    · rw [hform, hform'] at heq
      exact absurd rfl (hplain '[' (heq ▸ List.mem_cons_self ..)).2.1
    · right
      rw [hform, hform'] at heq
      have hchars : (Address.v6 address).chars = (Address.v6 address').chars := by
        simpa [Address.chars] using heq
      have hsame : Address.v6 address = .v6 address' :=
        Address.text_injective (congrArg String.ofList hchars)
      exact ⟨address, hparse, hsame ▸ hparse'⟩
  · rintro (rfl | ⟨address, hparse, hparse'⟩)
    · rfl
    · rw [hostForm, hostForm, hparse, hparse']

/-- **Identities are unique.**  For accepted host names, two identities are the same just when the ports are
    the same and the host names are the same, or spell the same address of the longer family.  Host and
    port are read back from an identity: behind its mark stands, up to the last colon, either the host
    name, which has no colons and no brackets then, or in brackets the written form of the address that it
    spells, which again spells this address; and behind the last colon stand the digits of the port. -/
theorem generate_unique {hostname hostname' : String} (h : Hostname.check hostname = .ok ())
    (h' : Hostname.check hostname' = .ok ()) (port port' : UInt16) :
    (generate hostname port = generate hostname' port' ↔
      port = port' ∧ (hostname = hostname' ∨ ∃ address,
        Address.parse? hostname = some (.v6 address) ∧
          Address.parse? hostname' = some (.v6 address))) ∧
    ∃ host, (generate hostname port).hostAndPort? = some (host, port) ∧
      (generate hostname port).text.toList =
        "recordserviced@".toList ++ host ++ ':' :: decimal port.toNat ∧
      ':' ∉ decimal port.toNat ∧
      (host = hostname.toList ∧ (∀ c ∈ host, c ≠ ':' ∧ c ≠ '[' ∧ c ≠ ']') ∨
        ∃ address, Address.parse? hostname = some (.v6 address) ∧
          host = '[' :: ((Address.v6 address).text.toList ++ [']']) ∧
          Address.parse? (Address.v6 address).text = some (.v6 address)) := by
  refine ⟨⟨fun heq => ?_, ?_⟩, hostForm hostname, hostAndPort?_generate hostname port, ?_,
    colon_notMem_decimal port.toNat, ?_⟩
  · have hread := congrArg hostAndPort? heq
    rw [hostAndPort?_generate, hostAndPort?_generate] at hread
    obtain ⟨hhost, hport⟩ := Prod.mk.inj (Option.some.inj hread)
    exact ⟨hport, (hostForm_eq_iff h h').1 hhost⟩
  · rintro ⟨rfl, hhost⟩
    have hform := (hostForm_eq_iff h h').2 hhost
    have htext : (generate hostname port).text.toList = (generate hostname' port).text.toList := by
      rw [toList_generate, toList_generate, hform]
    cases hleft : generate hostname port
    cases hright : generate hostname' port
    rw [hleft, hright] at htext
    exact congrArg Identity.mk (String.toList_inj.1 htext)
  · rw [toList_generate, ← List.append_assoc]
    rfl
  · obtain ⟨-, hform, hchars⟩ | ⟨address, hparse, hform⟩ := hostForm_cases h
    · exact .inl ⟨hform, hform ▸ hchars⟩
    · refine .inr ⟨address, hparse, ?_, Address.parse?_text _⟩
      rw [hform, Address.text, String.toList_ofList, Address.chars]

/-- Two spellings of the same address have the same identity, which tells the address and the port. -/
theorem generate_unique_spellings :
    Hostname.check "::1" = .ok () ∧ Hostname.check "0:0:0:0:0:0:0:1" = .ok () ∧
    generate "::1" 13050 = generate "0:0:0:0:0:0:0:1" 13050 ∧
    ∃ host, (generate "::1" 13050).hostAndPort? = some (host, 13050) := by
  have hchecks : Hostname.check "::1" = .ok () ∧ Hostname.check "0:0:0:0:0:0:0:1" = .ok () := by
    decide +kernel
  have hparse : Address.parse? "::1" = some (.v6 ⟨[0, 0, 0, 0, 0, 0, 0, 1], rfl⟩) ∧
      Address.parse? "0:0:0:0:0:0:0:1" = some (.v6 ⟨[0, 0, 0, 0, 0, 0, 0, 1], rfl⟩) := by
    decide +kernel
  obtain ⟨hsame, host, hread, -⟩ := generate_unique hchecks.1 hchecks.2 13050 13050
  exact ⟨hchecks.1, hchecks.2, hsame.2 ⟨rfl, .inr ⟨_, hparse⟩⟩, host, hread⟩

end Identity

end RoleDaemon
