import RoleDaemon.Files.Tree
import RoleDaemon.Proofs.Text.Splitting

/-!
# What a Path Leads To

A walk through the file tree stops by itself: the bound on its steps is never what ends it.  So what a path
leads to does not depend on what lies aside.  Nor does it depend on what is in a regular file, which is only
looked at once the walk is over.

## Architecture

- `walk_eq_of_bound`: any bound beyond the parts that are still to come gives the same result, by induction on
  the walk
- `AlikeAmong`, `KeepsTo`: trees that are the same along names of some kind, up to what is in regular files, and
  those in which no link leads to other names
- `walk_alike`: the walks through two such trees come to the same, by induction too

Main statements:
- `find_alike`: along names of the kind, a path leads to the same in both trees, or to regular files
- `readText_eq_ok_iff`, `find_eq_file_iff`: the text that is read from a path
-/

namespace RoleDaemon

/-! ## §1 Files and Their Texts -/

/-- The bytes of a text in UTF-8. -/
def Text.bytes (s : String) : List UInt8 :=
  s.toUTF8.data.toList

namespace FileTree

variable {tree tree' : FileTree} {path s name : String}

/-- The bytes of a text are valid, and decoding them gives the text; nothing else is decoded. -/
theorem decodeText?_eq_some_iff {bytes : List UInt8} : decodeText? bytes = some s ↔ bytes = Text.bytes s := by
  constructor
  · intro h
    rw [decodeText?, String.fromUTF8?] at h
    split at h
    · obtain rfl := Option.some.inj h
      simp [Text.bytes, String.toUTF8, String.fromUTF8]
    · cases h
  · rintro rfl
    have hbytes : ByteArray.mk (Text.bytes s).toArray = s.toByteArray := by
      simp [Text.bytes, String.toUTF8]
    rw [decodeText?, hbytes, String.fromUTF8?, dif_pos s.isValidUTF8]
    rfl

/-- A text is read from a file that holds its bytes. -/
theorem readText_of_find (hfind : tree.find path = .ok (.file (Text.bytes s))) :
    tree.readText path = .ok s := by
  rw [readText, hfind]
  simp only [decodeText?_eq_some_iff.2 rfl]

/-- A text is read from what holds its bytes, and from nothing else. -/
theorem readText_eq_ok_iff :
    tree.readText path = .ok s ↔
      tree.find path = .ok (.file (Text.bytes s)) ∨ tree.find path = .ok (.device (Text.bytes s)) := by
  rw [readText]
  cases tree.find path with
  | error fault => simp
  | ok target =>
    cases target with
    | file bytes | device bytes =>
      -- what is read is what the bytes decode to
      have hdecode := @decodeText?_eq_some_iff s bytes
      cases hbytes : decodeText? bytes <;> simp_all
    | closedFile | directory => simp

theorem exists?_iff : tree.exists? path = true ↔ ∃ target, tree.find path = .ok target := by
  rw [FileTree.exists?]
  cases tree.find path <;> simp

/-- A path leads to a regular file, which the process may read or not. -/
inductive ReachesFile : Except FileFault FileTarget → Prop
  | file (bytes : List UInt8) : ReachesFile (.ok (.file bytes))
  | closedFile : ReachesFile (.ok .closedFile)

theorem isFile_iff : tree.isFile path = true ↔ ReachesFile (tree.find path) := by
  rw [isFile]
  constructor
  · intro h
    split at h
    · next hfind => exact hfind ▸ .file _
    · next hfind => exact hfind ▸ .closedFile
    · cases h
  · intro h
    generalize tree.find path = found at h
    cases h <;> rfl

/-- A file holds the bytes of a text just when it is a regular file that the text is read from. -/
theorem find_eq_file_iff :
    tree.find path = .ok (.file (Text.bytes s)) ↔
      ReachesFile (tree.find path) ∧ tree.readText path = .ok s := by
  rw [readText_eq_ok_iff]
  constructor
  · intro hfind
    exact ⟨hfind ▸ .file _, .inl hfind⟩
  · rintro ⟨hfile, hfind | hfind⟩
    · exact hfind
    · -- a device is no regular file
      rw [hfind] at hfile
      cases hfile

/-! ## §2 The Bound of a Walk -/

/-- No link of the tree brings more than this many parts. -/
def LinksBelow (tree : FileTree) (bound : Nat) : Prop :=
  ∀ place target, tree.entry? place = some (.link target) → (Path.steps target).length ≤ bound

/-- A walk is bounded by the parts that are to come, and those that links can bring; beyond this, the bound
    makes no difference. -/
theorem walk_eq_of_bound {bound : Nat} (hlinks : tree.LinksBelow bound) {fuel fuel' links : Nat}
    {place rest : List String} (hfuel : rest.length + links * bound < fuel)
    (hfuel' : rest.length + links * bound < fuel') :
    walk tree fuel links place rest = walk tree fuel' links place rest := by
  induction fuel generalizing fuel' links place rest with
  | zero => omega
  | succ fuel ih =>
    obtain ⟨fuel', rfl⟩ : ∃ n, fuel' = n + 1 := ⟨fuel' - 1, by omega⟩
    cases rest with
    | nil => rw [walk, walk]
    | cons part rest =>
      rw [List.length_cons] at hfuel hfuel'
      rw [walk, walk]
      -- each part that is passed is one less to come
      have hpass : ∀ place, walk tree fuel links place rest = walk tree fuel' links place rest :=
        fun place => ih (by omega) (by omega)
      simp only [hpass]
      cases hentry : tree.entry? (place ++ [part]) with
      | none => rfl
      | some entry =>
        cases entry with
        | link target =>
          -- a link takes the place of a part, and can be followed once less
          have hmore := hlinks _ _ hentry
          by_cases hnone : links = 0
          · simp [hnone]
          obtain ⟨left, rfl⟩ : ∃ n, links = n + 1 := ⟨links - 1, by omega⟩
          rw [Nat.succ_mul] at hfuel hfuel'
          have hfollow : ∀ start, walk tree fuel left start (Path.steps target ++ rest) =
              walk tree fuel' left start (Path.steps target ++ rest) := by
            intro start
            apply ih <;> rw [List.length_append] <;> omega
          simp only [Nat.add_sub_cancel, hfollow]
        | _ => rfl

theorem length_steps_le (path : String) : (Path.steps path).length ≤ path.length + 1 := by
  have hparts : (Path.parts path).length ≤ path.length := by
    rw [Path.parts, List.length_map, ← String.length_toList]
    exact Text.length_filter_pieces_le '/' path.toList
  rw [Path.steps, List.length_append]
  split <;> simp <;> omega

/-- The longest target of a link is a bound for all links. -/
theorem linksBelow_longestLink (tree : FileTree) : tree.LinksBelow tree.longestLink := by
  intro place target hentry
  apply Nat.le_trans (length_steps_le target)
  rw [FileTree.entry?] at hentry
  split at hentry
  · cases hentry
  · -- the entry is one of those that the maximum is taken of
    obtain ⟨entry, hfind, hlink⟩ := Option.map_eq_some_iff.1 hentry
    have hlength : target.length + 1 = entry.2.linkLength := by
      rw [hlink]
      rfl
    rw [hlength]
    exact List.le_max?_getD_of_mem (List.mem_map_of_mem (List.mem_of_find?_eq_some hfind))

/-- A walk from its start has the result of any walk that is bounded beyond what can come. -/
theorem walkFrom_eq (tree : FileTree) (absolute : Bool) {parts : List String} {fuel : Nat}
    (hfuel : parts.length + maxLinks * tree.longestLink < fuel) :
    tree.walkFrom absolute parts =
      walk tree fuel maxLinks (if absolute then [] else tree.workingDirectory) parts := by
  refine walk_eq_of_bound tree.linksBelow_longestLink ?_ hfuel
  rw [Nat.mul_succ]
  omega

/-! ## §3 Trees That Are Alike -/

/-- At the place is a regular file, which the process may read or not. -/
inductive HoldsFile : Option FileEntry → Prop
  | file (bytes : List UInt8) : HoldsFile (some (.file bytes))
  | closedFile : HoldsFile (some .closedFile)

/-- The two are the same, or they are regular files, whatever is in them. -/
def Alike {α : Type} (isFile : α → Prop) (x y : α) : Prop :=
  x = y ∨ isFile x ∧ isFile y

/-- The trees have alike entries wherever names of this kind lead. -/
structure AlikeAmong (names : String → Prop) (tree tree' : FileTree) : Prop where
  workingDirectory : tree.workingDirectory = tree'.workingDirectory
  entries : ∀ place, (∀ name ∈ place, names name) →
    Alike HoldsFile (tree.entry? place) (tree'.entry? place)

/-- Neither the working directory nor any link leads to names of another kind. -/
structure KeepsTo (names : String → Prop) (tree : FileTree) : Prop where
  workingDirectory : ∀ name ∈ tree.workingDirectory, names name
  links : ∀ place target, (∀ name ∈ place, names name) → tree.entry? place = some (.link target) →
    ∀ name ∈ Path.steps target, names name

/-- More entries behind those of a tree leave it alike along names of a kind, as long as each of them is at a
    name of another kind. -/
theorem alikeAmong_append {names : String → Prop} (tree : FileTree) {more : List (List String × FileEntry)}
    (h : ∀ entry ∈ more, ∃ name ∈ entry.1, ¬names name) :
    AlikeAmong names tree { tree with entries := tree.entries ++ more } := by
  refine ⟨rfl, fun place hplace => .inl ?_⟩
  have hnone : more.find? (·.1 = place) = none := by
    rw [List.find?_eq_none]
    intro entry hentry hat
    obtain ⟨name, hname, hother⟩ := h entry hentry
    exact hother (hplace name (of_decide_eq_true hat ▸ hname))
  rw [FileTree.entry?, FileTree.entry?, List.find?_append, hnone, Option.or_none]

/-- A tree keeps to the names of a kind when its links do, wherever they are. -/
theorem keepsTo_of_links {names : String → Prop} (hplace : ∀ name ∈ tree.workingDirectory, names name)
    (h : ∀ entry ∈ tree.entries, ∀ target, entry.2 = .link target →
      ∀ name ∈ Path.steps target, names name) : KeepsTo names tree := by
  refine ⟨hplace, fun place target _ hlink => ?_⟩
  rw [FileTree.entry?] at hlink
  split at hlink
  · cases hlink
  · obtain ⟨entry, hfind, htarget⟩ := Option.map_eq_some_iff.1 hlink
    exact h entry (List.mem_of_find?_eq_some hfind) target htarget

/-- Alike is what is chosen in the same way among what is alike. -/
theorem Alike.ite {α : Type} {isFile : α → Prop} {x y x' y' : α} {c : Prop} [Decidable c]
    (hthen : Alike isFile x y) (helse : ¬c → Alike isFile x' y') :
    Alike isFile (if c then x else x') (if c then y else y') := by
  by_cases hc : c
  · rwa [if_pos hc, if_pos hc]
  · rw [if_neg hc, if_neg hc]
    exact helse hc

/-- A walk that is at a regular file ends there when no parts are left, and cannot go on. -/
theorem walk_at_file {fuel links : Nat} {place : List String} (h : HoldsFile (tree.entry? place)) :
    ReachesFile (walk tree (fuel + 1) links place []) ∧
      ∀ part rest, walk tree (fuel + 1) links place (part :: rest) = .error .notDirectory := by
  generalize hentry : tree.entry? place = entry at h
  cases h with
  | file bytes =>
    refine ⟨?_, fun part rest => ?_⟩ <;> rw [walk, hentry]
    · exact .file bytes
    · simp
  | closedFile =>
    refine ⟨?_, fun part rest => ?_⟩ <;> rw [walk, hentry]
    · exact .closedFile
    · simp

/-- A walk along names of the kind comes to the same in both trees. -/
theorem walk_alike {names : String → Prop} (halike : AlikeAmong names tree tree')
    (hkeeps : KeepsTo names tree) {fuel links : Nat} {place rest : List String}
    (hplace : ∀ name ∈ place, names name) (hrest : ∀ name ∈ rest, names name) :
    Alike ReachesFile (walk tree fuel links place rest) (walk tree' fuel links place rest) := by
  induction fuel generalizing links place rest with
  | zero => exact .inl rfl
  | succ fuel ih =>
    cases rest with
    | nil =>
      obtain hsame | ⟨hfile, hfile'⟩ := halike.entries place hplace
      · rw [walk, walk, hsame]
        exact .inl rfl
      · exact .inr ⟨(walk_at_file hfile).1, (walk_at_file hfile').1⟩
    | cons part rest =>
      obtain ⟨hpart, hrest⟩ := List.forall_mem_cons.1 hrest
      have hnext : ∀ name ∈ place ++ [part], names name :=
        List.forall_mem_append.2 ⟨hplace, List.forall_mem_singleton.2 hpart⟩
      have hparent : ∀ name ∈ place.dropLast, names name :=
        fun name hname => hplace name (List.dropLast_subset _ hname)
      obtain hsame | ⟨hfile, hfile'⟩ := halike.entries place hplace
      · rw [walk, walk, hsame]
        apply Alike.ite (.inl rfl); intro
        apply Alike.ite (.inl rfl); intro
        apply Alike.ite (ih hplace hrest); intro
        apply Alike.ite (ih hparent hrest); intro
        apply Alike.ite (.inl rfl); intro
        -- the walk goes on to an entry of the directory
        obtain hsame | ⟨hfile, hfile'⟩ := halike.entries _ hnext
        · simp only [← hsame]
          cases hentry : tree.entry? (place ++ [part]) with
          | none => exact .inl rfl
          | some entry =>
            cases entry with
            | link target =>
              -- the parts of the target take the place of the link, and are of the kind too
              have hsteps : ∀ name ∈ Path.steps target ++ rest, names name :=
                List.forall_mem_append.2 ⟨hkeeps.links _ _ hnext hentry, hrest⟩
              have hstart : ∀ name ∈ (if Path.isAbsolute target then [] else place), names name := by
                split
                · exact List.forall_mem_nil _
                · exact hplace
              apply Alike.ite (.inl rfl); intro
              apply Alike.ite (.inl rfl); intro
              exact ih hstart hsteps
            | _ => exact ih hnext hrest
        · generalize hentry : tree.entry? (place ++ [part]) = entry at hfile
          generalize hentry' : tree'.entry? (place ++ [part]) = entry' at hfile'
          cases hfile <;> cases hfile' <;> simpa only [hentry, hentry'] using ih hnext hrest
      · -- nothing is below a file, in either tree
        rw [(walk_at_file hfile).2, (walk_at_file hfile').2]
        exact .inl rfl

/-- A path along names of the kind leads to the same in both trees, or to regular files. -/
theorem find_alike {names : String → Prop} (halike : AlikeAmong names tree tree')
    (hkeeps : KeepsTo names tree) (hpath : ∀ name ∈ Path.steps path, names name) :
    Alike ReachesFile (tree.find path) (tree'.find path) := by
  have hwalk : Alike ReachesFile (tree.walkFrom (Path.isAbsolute path) (Path.steps path))
      (tree'.walkFrom (Path.isAbsolute path) (Path.steps path)) := by
    -- a bound that is enough for both
    let fuel := (Path.steps path).length + maxLinks * (tree.longestLink + tree'.longestLink) + 1
    have hfuel : (Path.steps path).length + maxLinks * tree.longestLink < fuel := by
      simp only [fuel, Nat.mul_add]
      omega
    have hfuel' : (Path.steps path).length + maxLinks * tree'.longestLink < fuel := by
      simp only [fuel, Nat.mul_add]
      omega
    rw [walkFrom_eq tree _ hfuel, walkFrom_eq tree' _ hfuel', ← halike.workingDirectory]
    apply walk_alike halike hkeeps _ hpath
    split
    · simp
    · exact hkeeps.workingDirectory
  rw [find, find]
  apply Alike.ite (.inl rfl); intro
  apply Alike.ite (.inl rfl); intro
  apply Alike.ite (.inl rfl); intro
  exact hwalk

end FileTree

end RoleDaemon
