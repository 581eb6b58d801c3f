import LogQuery.Disk

/-!
# Written files

A file is found where it was written (`at?_of_write?`). This is not plain, as a path can go back and
pass through folders on its way. Where it leads depends on nothing but which places are folders
(`place?_congr`), and writing a file changes that for no place (`isFolderAt_put`), so afterwards the
path leads where it led before.
-/

namespace LogQuery

theorem Entry.descend?_append (entry : Entry) (names later : List String) :
    entry.descend? (names ++ later) = (entry.descend? names).bind (·.descend? later) := by
  induction names generalizing entry with
  | nil =>
    rw [List.nil_append, descend?]
    rfl
  | cons name rest ih =>
    cases entry with
    | file content => rfl
    | folder entries =>
      rw [List.cons_append, descend?, descend?]
      cases entries.get? name with
      | none => rfl
      | some inner => exact ih inner

namespace Folder

/-! ## Places of folders -/

/-- Names lead to a folder. -/
def IsFolderAt (root : Folder) (names : List String) : Prop :=
  ∃ folder, (Entry.folder root).descend? names = some (.folder folder)

variable {root root' : Folder} {entry : Entry} {content : ByteArray} {names here : List String}
  {path : String}

theorem isFolderAt_nil (root : Folder) : IsFolderAt root [] := ⟨root, rfl⟩

theorem isFolderAt_cons_iff {name : String} {rest : List String} :
    IsFolderAt root (name :: rest) ↔
      ∃ inner, root.get? name = some (.folder inner) ∧ IsFolderAt inner rest := by
  unfold IsFolderAt
  rw [Entry.descend?]
  rcases hget : root.get? name with _ | ⟨content⟩ | ⟨inner⟩
  · simp
  · cases rest <;> simp [Entry.descend?]
  · simp

/-- What an entry is found in is a folder. -/
theorem isFolderAt_dropLast (h : (Entry.folder root).descend? names = some entry) :
    IsFolderAt root names.dropLast := by
  rcases List.eq_nil_or_concat names with rfl | ⟨init, name, rfl⟩
  · exact isFolderAt_nil root
  · rw [List.concat_eq_append, Entry.descend?_append] at h
    rw [List.concat_eq_append, List.dropLast_concat]
    obtain ⟨inner, hinner, hentry⟩ := Option.bind_eq_some_iff.mp h
    cases inner with
    | file content => exact absurd hentry (by simp [Entry.descend?])
    | folder inner => exact ⟨inner, hinner⟩

/-! ## Where paths lead -/

theorem place?_cons_of_isFolderAt (h : IsFolderAt root here) (step : String)
    (rest : List String) :
    root.place? here (step :: rest) =
      if step = "" ∨ step = "." then root.place? here rest
      else if step = ".." then if here = [] then none else root.place? here.dropLast rest
      else root.place? (here ++ [step]) rest := by
  obtain ⟨folder, hfolder⟩ := h
  rw [place?, hfolder]

/-- No step leads on from what is no folder. -/
theorem place?_cons_of_not_isFolderAt (h : ¬ IsFolderAt root here) (step : String)
    (rest : List String) : root.place? here (step :: rest) = none := by
  rw [place?]
  split
  · rename_i folder hfolder
    exact absurd ⟨folder, hfolder⟩ h
  · rfl

/-- Steps lead to the same place on disks with the same folders. -/
theorem place?_congr (h : ∀ names, IsFolderAt root names ↔ IsFolderAt root' names)
    (here steps : List String) : root.place? here steps = root'.place? here steps := by
  induction steps generalizing here with
  | nil => rfl
  | cons step rest ih =>
    by_cases hhere : IsFolderAt root here
    · rw [place?_cons_of_isFolderAt hhere, place?_cons_of_isFolderAt ((h here).mp hhere), ih, ih,
        ih]
    · rw [place?_cons_of_not_isFolderAt hhere,
        place?_cons_of_not_isFolderAt (mt (h here).mpr hhere)]

/-- The place where steps lead is the root or in a folder. -/
theorem isFolderAt_dropLast_of_place? {steps : List String} (hhere : IsFolderAt root here.dropLast)
    (h : root.place? here steps = some names) : IsFolderAt root names.dropLast := by
  induction steps generalizing here with
  | nil =>
    obtain rfl := Option.some_inj.mp h
    exact hhere
  | cons step rest ih =>
    by_cases hfolder : IsFolderAt root here
    · rw [place?_cons_of_isFolderAt hfolder] at h
      split at h
      · exact ih hhere h
      · split at h
        · split at h
          · exact absurd h (by simp)
          · -- the folder that two dots lead to is in a folder, as it is one that was passed
            obtain ⟨parent, hparent⟩ := hhere
            exact ih (isFolderAt_dropLast hparent) h
        · refine ih ?_ h
          rw [List.dropLast_concat]
          exact hfolder
    · rw [place?_cons_of_not_isFolderAt hfolder] at h
      exact absurd h (by simp)

/-! ## Putting entries -/

theorem put_cons_cons {name next : String} {rest : List String} {inner : Folder}
    (h : root.get? name = some (.folder inner)) :
    put entry (name :: next :: rest) root =
      root.insert name (.folder (put entry (next :: rest) inner)) := by
  rw [put, h]
  exact List.cons_ne_nil _ _

theorem descend?_put (hne : names ≠ []) (h : IsFolderAt root names.dropLast) :
    (Entry.folder (put entry names root)).descend? names = some entry := by
  induction names generalizing root with
  | nil => exact absurd rfl hne
  | cons name rest ih =>
    cases rest with
    | nil =>
      rw [put, Entry.descend?, OrderedMap.get?_insert, if_pos rfl]
      rfl
    | cons next rest =>
      obtain ⟨inner, hget, hinner⟩ := isFolderAt_cons_iff.mp h
      rw [put_cons_cons hget, Entry.descend?, OrderedMap.get?_insert, if_pos rfl]
      exact ih (List.cons_ne_nil _ _) hinner

/-- A file that is put where no folder is leaves the folders where they are. -/
theorem isFolderAt_put (hne : names ≠ []) (h : IsFolderAt root names.dropLast)
    (hfile : ¬ IsFolderAt root names) (other : List String) :
    IsFolderAt (put (.file content) names root) other ↔ IsFolderAt root other := by
  induction names generalizing root other with
  | nil => exact absurd rfl hne
  | cons name rest ih =>
    cases other with
    | nil => exact iff_of_true (isFolderAt_nil _) (isFolderAt_nil _)
    | cons first other =>
      cases rest with
      | nil =>
        -- where the file is put there was no folder, so no names led through it before
        rw [put, isFolderAt_cons_iff, isFolderAt_cons_iff, OrderedMap.get?_insert]
        by_cases hfirst : name = first
        · rw [if_pos hfirst]
          refine iff_of_false (by simp) ?_
          rintro ⟨inner, hinner, -⟩
          exact hfile (isFolderAt_cons_iff.mpr ⟨inner, hfirst ▸ hinner, isFolderAt_nil inner⟩)
        · rw [if_neg hfirst]
      | cons next rest =>
        obtain ⟨inner, hget, hinner⟩ := isFolderAt_cons_iff.mp h
        have hfile' : ¬ IsFolderAt inner (next :: rest) := fun hrest =>
          hfile (isFolderAt_cons_iff.mpr ⟨inner, hget, hrest⟩)
        rw [put_cons_cons hget, isFolderAt_cons_iff, isFolderAt_cons_iff, OrderedMap.get?_insert]
        by_cases hfirst : name = first
        · subst hfirst
          rw [if_pos rfl, hget]
          simpa using ih (List.cons_ne_nil _ _) hinner hfile' other
        · rw [if_neg hfirst]

/-! ## Writing files -/

/-- A file is written where its path leads to a place that is no folder, and under a name that fits
unless there is one already. -/
theorem write?_eq_some_iff :
    root.write? path content = some root' ↔
      ∃ steps names, pathSteps? path = some steps ∧ root.place? [] steps = some names ∧
        ¬ IsFolderAt root names ∧
        ((Entry.folder root).descend? names = none → names.all fitsEntry) ∧
        put (.file content) names root = root' := by
  unfold write? IsFolderAt
  rcases pathSteps? path with _ | steps
  · simp
  · rcases hplace : root.place? [] steps with _ | names
    · simp [hplace]
    · rcases hentry : (Entry.folder root).descend? names with _ | ⟨old⟩ | ⟨inner⟩
      all_goals simp [hplace, hentry]

/-- Whether a file can be written does not depend on what it holds. -/
theorem exists_write? (h : (root.write? path content).isSome) (content' : ByteArray) :
    ∃ root', root.write? path content' = some root' := by
  obtain ⟨_, hwritten⟩ := Option.isSome_iff_exists.mp h
  obtain ⟨steps, names, hsteps, hplace, hfile, hfits, -⟩ := write?_eq_some_iff.mp hwritten
  exact ⟨_, write?_eq_some_iff.mpr ⟨steps, names, hsteps, hplace, hfile, hfits, rfl⟩⟩

/-- A file is found where it was written, and holds what was written. -/
theorem at?_of_write? (h : root.write? path content = some root') :
    root'.at? path = some (.file content) := by
  obtain ⟨steps, names, hsteps, hplace, hfile, -, rfl⟩ := write?_eq_some_iff.mp h
  have hne : names ≠ [] := by
    rintro rfl
    exact hfile (isFolderAt_nil root)
  have hparent := isFolderAt_dropLast_of_place? (isFolderAt_nil root) hplace
  have hplace' : (put (.file content) names root).place? [] steps = some names := by
    rw [place?_congr (isFolderAt_put hne hparent hfile), hplace]
  unfold at?
  simp only [hsteps, hplace', Option.bind_eq_bind, Option.bind_some]
  exact descend?_put hne hparent

end Folder

end LogQuery
