import RoleDaemon.Metrics.Series

/-!
# Values of a Series

What a series tells about a pair after the value of some pair was changed.  Pairs with the same
run-together text are told the same.

Main statements:
- `Series.value`: the value of a pair, which is the start value where none is filed
- `Series.value_update`: the value of a pair after an update
- `Series.value_touch`: reading a pair changes no value
- `Series.touch_of_isSome`, `Series.touch_of_eq_none`: it leaves the cells, or adds one for the pair
- `Series.cells_foldl_touch`: what reading several pairs adds
-/

namespace RoleDaemon.Metrics.Series

variable {α : Type}

/-- The value of a pair; the start value where none is filed. -/
def value (series : Series α) (start : α) (labels : CallLabels) : α :=
  (series.get? labels).getD start

theorem updateCells_of_key {cell : CallLabels × α} {labels : CallLabels}
    (hkey : cell.1.key = labels.key) (start : α) (change : α → α) (cells : List (CallLabels × α)) :
    updateCells start change labels (cell :: cells) = (cell.1, change cell.2) :: cells :=
  if_pos hkey

theorem updateCells_of_ne_key {cell : CallLabels × α} {labels : CallLabels}
    (hkey : cell.1.key ≠ labels.key) (start : α) (change : α → α) (cells : List (CallLabels × α)) :
    updateCells start change labels (cell :: cells) =
      cell :: updateCells start change labels cells :=
  if_neg hkey

/-- An update is seen by the pairs with the text of the updated one. -/
theorem get?_update (series : Series α) (start : α) (change : α → α) (labels other : CallLabels) :
    (series.update start change labels).get? other =
      if other.key = labels.key then some (change (series.value start other))
      else series.get? other := by
  obtain ⟨cells⟩ := series
  simp only [get?, value, update]
  induction cells with
  | nil =>
    by_cases hkey : other.key = labels.key
    · simp [updateCells, hkey]
    · simp [updateCells, hkey, Ne.symm hkey]
  | cons cell cells ih =>
    by_cases hcell : cell.1.key = labels.key
    · by_cases hkey : other.key = labels.key
      · simp [updateCells_of_key, hcell, hkey]
      · simp [updateCells_of_key, hcell, hkey, Ne.symm hkey]
    · rw [updateCells_of_ne_key hcell]
      by_cases hfound : cell.1.key = other.key
      · -- the cell in front belongs to the other pair, and not to the updated one
        have hkey : other.key ≠ labels.key := fun h => hcell (hfound.trans h)
        simp [hfound, hkey]
      · simpa [hfound] using ih

theorem value_update (series : Series α) (start : α) (change : α → α) (labels other : CallLabels) :
    (series.update start change labels).value start other =
      if other.key = labels.key then change (series.value start other)
      else series.value start other := by
  rw [value, get?_update]
  split <;> rfl

/-- Reading a pair changes no value. -/
@[simp] theorem value_touch (series : Series α) (start : α) (labels other : CallLabels) :
    (series.touch start labels).value start other = series.value start other := by
  rw [touch, value_update]
  split <;> rfl

theorem value_foldl_touch (read : List CallLabels) (series : Series α) (start : α)
    (other : CallLabels) :
    (read.foldl (fun s labels => s.touch start labels) series).value start other =
      series.value start other := by
  induction read generalizing series with
  | nil => rfl
  | cons labels read ih => rw [List.foldl_cons, ih, value_touch]

/-! ## Reading and Cells -/

/-- A value is filed for the updated pair and its likes, and no value is lost. -/
theorem isSome_get?_update (series : Series α) (start : α) (change : α → α)
    (labels other : CallLabels) :
    ((series.update start change labels).get? other).isSome ↔
      other.key = labels.key ∨ (series.get? other).isSome := by
  rw [get?_update]
  split
  · rename_i hkey
    simp [hkey]
  · rename_i hkey
    simp [hkey]

/-- Reading a pair with a value leaves the series as it is. -/
theorem touch_of_isSome {series : Series α} (start : α) {labels : CallLabels}
    (h : (series.get? labels).isSome) : series.touch start labels = series := by
  obtain ⟨cells⟩ := series
  simp only [touch, update, mk.injEq]
  simp only [get?, Option.isSome_map] at h
  induction cells with
  | nil => cases h
  | cons cell cells ih =>
    by_cases hcell : cell.1.key = labels.key
    · exact updateCells_of_key hcell start id cells
    · rw [List.find?_cons_of_neg (by simpa using hcell)] at h
      rw [updateCells_of_ne_key hcell, ih h]

/-- Reading a pair without a value files the start value behind all others. -/
theorem touch_of_eq_none {series : Series α} (start : α) {labels : CallLabels}
    (h : series.get? labels = none) :
    series.touch start labels = ⟨series.cells ++ [(labels, start)]⟩ := by
  obtain ⟨cells⟩ := series
  simp only [touch, update, mk.injEq]
  simp only [get?, Option.map_eq_none_iff] at h
  induction cells with
  | nil => rfl
  | cons cell cells ih =>
    by_cases hcell : cell.1.key = labels.key
    · simp [hcell] at h
    · rw [List.find?_cons_of_neg (by simpa using hcell)] at h
      rw [updateCells_of_ne_key hcell, ih h, List.cons_append]

/-- Reading pairs that have values leaves the series as it is. -/
theorem foldl_touch_of_isSome {read : List CallLabels} {series : Series α} (start : α)
    (h : ∀ labels ∈ read, (series.get? labels).isSome) :
    read.foldl (fun s labels => s.touch start labels) series = series := by
  induction read with
  | nil => rfl
  | cons labels read ih =>
    obtain ⟨hfirst, hrest⟩ := List.forall_mem_cons.1 h
    rw [List.foldl_cons, touch_of_isSome start hfirst, ih hrest]

/-- Reading pairs files the start value for those without a value, once for each run-together text. -/
theorem cells_foldl_touch (read : List CallLabels) (series : Series α) (start : α) :
    ∃ added : List CallLabels,
      (∀ labels ∈ added, labels ∈ read ∧ series.get? labels = none) ∧
      added.Pairwise (fun a b => a.key ≠ b.key) ∧
      read.foldl (fun s labels => s.touch start labels) series =
        ⟨series.cells ++ added.map fun labels => (labels, start)⟩ := by
  induction read generalizing series with
  | nil => exact ⟨[], by simp, List.Pairwise.nil, by simp⟩
  | cons labels read ih =>
    rw [List.foldl_cons]
    cases hfiled : series.get? labels with
    | some value =>
      -- the pair has a value, and adds nothing
      rw [touch_of_isSome start (by simp [hfiled])]
      obtain ⟨added, hadded, hdistinct, hcells⟩ := ih series
      exact ⟨added, fun other hother => ⟨List.mem_cons_of_mem _ (hadded other hother).1,
        (hadded other hother).2⟩, hdistinct, hcells⟩
    | none =>
      obtain ⟨added, hadded, hdistinct, hcells⟩ := ih (series.touch start labels)
      -- what is added later had no value even when this pair had one
      have hlater : ∀ other ∈ added, other.key ≠ labels.key ∧ series.get? other = none := by
        intro other hother
        have hnone := (hadded other hother).2
        rw [touch, get?_update] at hnone
        split at hnone
        · cases hnone
        · rename_i hkey
          exact ⟨hkey, hnone⟩
      refine ⟨labels :: added, ?_, ?_, ?_⟩
      · rintro other hother
        rcases List.mem_cons.1 hother with rfl | hother
        · exact ⟨List.mem_cons_self, hfiled⟩
        · exact ⟨List.mem_cons_of_mem _ (hadded other hother).1, (hlater other hother).2⟩
      · exact List.pairwise_cons.2 ⟨fun other hother => (hlater other hother).1.symm, hdistinct⟩
      · rw [hcells, touch_of_eq_none start hfiled, List.append_assoc, List.map_cons,
          List.singleton_append]

end RoleDaemon.Metrics.Series
