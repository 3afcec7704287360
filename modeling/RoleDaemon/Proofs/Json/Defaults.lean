import RoleDaemon.Json.Read

/-!
# Reading on Top of Defaults

A record is read on top of defaults, which stand where the text gives nothing.  Whether the text is a
record, and what it gives, does not depend on them: from any defaults the reading fails with the same
error, or it makes the same change.

## Architecture

- `Composable`: a kind of changes that can be left out and made one after the other
- `Changes`: a reader makes one change of a kind, whatever the record was before
- `changes_member`, `changes_members`, `changes_positional`: the members of an object and the elements
  of a list, by induction on their number and on the fields

Main statements:
- `Record.document_changes`: what a whole text does to any defaults
-/

namespace RoleDaemon.Json.Record

open Text

variable {σ ε : Type} {record : Record σ} {P : (σ → σ) → Prop}

/-- A kind of changes to a record.  One may change nothing, or make one change after the other. -/
structure Composable (P : (σ → σ) → Prop) : Prop where
  none : P id
  andThen : ∀ {first second : σ → σ}, P first → P second → P (second ∘ first)

/-- From any record the reader fails with the same error, or it makes the same change, which is one of the
    kind, and leaves the same text. -/
def Changes (P : (σ → σ) → Prop) (read : σ → List Char → Except ε (σ × List Char)) : Prop :=
  ∀ cs, (∃ error, ∀ s, read s cs = .error error) ∨
    ∃ change rest, P change ∧ ∀ s, read s cs = .ok (change s, rest)

/-- A field changes the record by the value that is read for it. -/
theorem changes_of {α : Type} (name : String) (required : Bool) (read : Reader α) {set : α → σ → σ}
    (hset : ∀ a, P (set a)) : Changes P (Field.of name required read set).read := by
  intro cs
  -- the value is read before it is put into the record, so the record has no part in it
  cases hread : read cs with
  | error error => exact .inl ⟨error, fun s => by simp [Field.of, hread, Except.map]⟩
  | ok result =>
    exact .inr ⟨set result.1, result.2, hset result.1, fun s => by simp [Field.of, hread, Except.map]⟩

/-- A member fails alike from any record, or it gives the same field and makes the same change. -/
theorem changes_member (hcomp : Composable P) (hfields : ∀ field ∈ record.fields, Changes P field.read)
    (seen : List String) (cs : List Char) :
    (∃ error, ∀ s, record.member seen s cs = .error error) ∨
      ∃ name? change rest, P change ∧ ∀ s, record.member seen s cs = .ok (name?, change s, rest) := by
  simp only [member, bind, Except.bind]
  cases between (Json.string cs) with
  | error error => exact .inl ⟨error, fun _ => rfl⟩
  | ok key =>
    obtain ⟨name, cs⟩ := key
    dsimp only
    cases hfield : record.fields.find? (·.name = name) with
    | none =>
      -- the value is passed over, and nothing changes
      dsimp only
      cases between (colon cs) with
      | error error => exact .inl ⟨error, fun _ => rfl⟩
      | ok behind =>
        dsimp only
        cases inField name (skipValue behind.2) with
        | error error => exact .inl ⟨error, fun _ => rfl⟩
        | ok rest => exact .inr ⟨none, id, rest.2, hcomp.none, fun _ => rfl⟩
    | some field =>
      dsimp only
      split
      · exact .inl ⟨_, fun _ => rfl⟩
      · cases between (colon cs) with
        | error error => exact .inl ⟨error, fun _ => rfl⟩
        | ok behind =>
          -- the field is known and new, so its reader decides
          obtain ⟨error, hread⟩ | ⟨change, rest, hchange, hread⟩ :=
            hfields field (List.mem_of_find?_eq_some hfield) behind.2
          · exact .inl ⟨⟨some name, error⟩, fun s => by simp only [hread, inField]⟩
          · exact .inr ⟨some name, change, rest, hchange, fun s => by simp only [hread, inField]⟩

/-- The members of an object, by induction on the fuel. -/
theorem changes_members (hcomp : Composable P)
    (hfields : ∀ field ∈ record.fields, Changes P field.read) (fuel : Nat) (first : Bool)
    (seen : List String) : Changes P (record.members fuel first seen) := by
  induction fuel generalizing first seen with
  | zero => exact fun cs => .inl ⟨_, fun _ => rfl⟩
  | succ fuel ih =>
    intro cs
    cases hnext : nextKey first cs with
    | error error => exact .inl ⟨.ofFault error, fun s => by simp only [members, hnext]⟩
    | ok next =>
      cases next with
      | none =>
        simp only [members, hnext]
        split
        · exact .inl ⟨_, fun _ => rfl⟩
        · cases between (endObject cs) with
          | error error => exact .inl ⟨error, fun _ => rfl⟩
          | ok rest => exact .inr ⟨id, rest.2, hcomp.none, fun _ => rfl⟩
      | some inside =>
        obtain ⟨error, hmember⟩ | ⟨name?, change, rest, hchange, hmember⟩ :=
          changes_member hcomp hfields seen inside
        · exact .inl ⟨error, fun s => by simp only [members, hnext, hmember]⟩
        · -- the members behind this one make their change after it
          obtain ⟨seen', hstep⟩ : ∃ seen', ∀ s, record.members (fuel + 1) first seen s cs =
              record.members fuel false seen' (change s) rest := by
            cases name? with
            | none => exact ⟨seen, fun s => by simp only [members, hnext, hmember]⟩
            | some name => exact ⟨name :: seen, fun s => by simp only [members, hnext, hmember]⟩
          obtain ⟨error, hrest⟩ | ⟨later, behind, hlater, hrest⟩ := ih false seen' rest
          · exact .inl ⟨error, fun s => (hstep s).trans (hrest _)⟩
          · exact .inr ⟨later ∘ change, behind, hcomp.andThen hchange hlater,
              fun s => (hstep s).trans (hrest _)⟩

/-- The elements of a list, by induction on the fields that are still to be given. -/
theorem changes_positional (hcomp : Composable P) {fields : List (Field σ)}
    (hfields : ∀ field ∈ fields, Changes P field.read) (index : Nat) :
    Changes P (record.positional fields index) := by
  induction fields generalizing index with
  | nil =>
    intro cs
    simp only [positional]
    cases between (Reader.endList cs) with
    | error error => exact .inl ⟨error, fun _ => rfl⟩
    | ok rest => exact .inr ⟨id, rest.2, hcomp.none, fun _ => rfl⟩
  | cons field fields ih =>
    have hlater := ih (fun field hfield => hfields field (List.mem_cons_of_mem _ hfield)) (index + 1)
    intro cs
    simp only [positional]
    cases Reader.nextElement (index == 0) cs with
    | error error => exact .inl ⟨_, fun _ => rfl⟩
    | ok next =>
      cases next with
      | none =>
        -- the list ends early, which is a fault or leaves the defaults
        dsimp only
        split
        · exact .inl ⟨_, fun _ => rfl⟩
        · exact hlater cs
      | some element =>
        obtain ⟨error, hread⟩ | ⟨change, rest, hchange, hread⟩ :=
          hfields field (List.mem_cons_self ..) element
        · exact .inl ⟨⟨some ("[" ++ decimalText index ++ "]"), error⟩, fun s => by simp only [hread]⟩
        · obtain ⟨error, hrest⟩ | ⟨later, behind, hbehind, hrest⟩ := hlater rest
          · exact .inl ⟨error, fun s => by simp only [hread, hrest]⟩
          · exact .inr ⟨later ∘ change, behind, hcomp.andThen hchange hbehind,
              fun s => by simp only [hread, hrest, Function.comp_apply]⟩

theorem changes_readAt (hcomp : Composable P)
    (hfields : ∀ field ∈ record.fields, Changes P field.read) : Changes P record.readAt := by
  intro cs
  simp only [readAt]
  cases skipBlanks cs with
  | nil => exact .inl ⟨_, fun _ => rfl⟩
  | cons c rest =>
    dsimp only
    split
    · exact changes_positional hcomp hfields 0 rest
    · split
      · exact changes_members hcomp hfields _ true [] rest
      · exact .inl ⟨_, fun _ => rfl⟩

/-- **A text says the same on top of any defaults.**  It is refused with the same error, or it makes the
same change, which is one of any kind that the fields are of. -/
theorem document_changes (hcomp : Composable P)
    (hfields : ∀ field ∈ record.fields, Changes P field.read) (text : String) :
    (∃ error, ∀ s, record.document s text = .error error) ∨
      ∃ change, P change ∧ ∀ s, record.document s text = .ok (change s) := by
  obtain ⟨error, hread⟩ | ⟨change, rest, hchange, hread⟩ :=
    changes_readAt hcomp hfields text.toList
  · exact .inl ⟨error, fun s => by simp only [document, hread]⟩
  · by_cases hend : (skipBlanks rest).isEmpty
    · exact .inr ⟨change, hchange, fun s => by simp only [document, hread, hend, if_true]⟩
    · exact .inl ⟨.ofFault .trailingCharacters, fun s => by
        simp only [document, hread, hend, Bool.false_eq_true, if_false]⟩

end RoleDaemon.Json.Record
