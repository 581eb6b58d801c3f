import LogQuery.Proofs.LoadedTables
import LogQuery.Proofs.WrittenFiles

/-!
# The names of saved tables

Which tables are found again in a folder into which a store was saved. A table is found under every
name that makes the name of a file in the folder (`mem_names_load`), except for the empty one. The
names of files have no slashes (`isStep_of_mem_names_save`), so a table whose name has one is never
found under it, even where its file could be written. All tables are therefore found under their
names, and no others, exactly when each name is what a file can be called before its suffix
(`keepsNames_iff`).
-/

namespace LogQuery

open Text

namespace Text

/-- The pieces of a list that is split have no separator, and nothing that the list lacks. -/
theorem mem_of_mem_splitOn {α : Type} [BEq α] [LawfulBEq α] {sep : α} {l piece : List α}
    (h : piece ∈ l.splitOn sep) : ∀ a ∈ piece, a ∈ l ∧ a ≠ sep := by
  induction l generalizing piece with
  | nil =>
    rw [List.splitOn_nil, List.mem_singleton] at h
    subst h
    exact List.forall_mem_nil _
  | cons b l ih =>
    rw [List.splitOn_cons_eq_if_modifyHead] at h
    have hlater : ∀ {piece}, piece ∈ l.splitOn sep → ∀ a ∈ piece, a ∈ b :: l ∧ a ≠ sep :=
      fun hpiece a ha => ⟨List.mem_cons_of_mem b (ih hpiece a ha).1, (ih hpiece a ha).2⟩
    split at h
    · rcases List.mem_cons.mp h with rfl | h
      · exact List.forall_mem_nil _
      · exact hlater h
    · rename_i hb
      obtain ⟨first, rest, hpieces⟩ := List.exists_cons_of_ne_nil (List.splitOn_ne_nil sep l)
      rw [hpieces] at h hlater
      rcases List.mem_cons.mp h with rfl | h
      · refine List.forall_mem_cons.mpr ⟨⟨List.mem_cons_self, by simpa using hb⟩, ?_⟩
        exact hlater List.mem_cons_self
      · exact hlater (List.mem_cons_of_mem first h)

end Text

/-! ## The entries of a folder that is written into -/

/-- What a name has to be like to be a step of a path. -/
structure IsStep (name : String) : Prop where
  no_slash : '/' ∉ name.toList
  no_null : '\x00' ∉ name.toList

/-- The steps of a path have no slash and no null character in them. -/
theorem isStep_of_pathSteps? {path : String} {steps : List String}
    (h : pathSteps? path = some steps) : ∀ step ∈ steps, IsStep step := by
  unfold pathSteps? at h
  dsimp only at h
  split at h
  · cases h
  · rename_i hpath
    obtain rfl := Option.some_inj.mp h
    rw [List.forall_mem_map]
    intro piece hpiece
    have hchars := mem_of_mem_splitOn hpiece
    constructor
    · rw [String.toList_ofList]
      exact fun hslash => (hchars _ hslash).2 rfl
    · rw [String.toList_ofList]
      exact fun hnull => hpath (.inr (.inr (hchars _ hnull).1))

namespace Folder

variable {root root' : Folder} {names here steps : List String} {path : String}

/-- A path leads to no names but those that it takes. -/
theorem mem_of_place? (h : root.place? here steps = some names) :
    ∀ name ∈ names, name ∈ here ∨ name ∈ steps := by
  induction steps generalizing here with
  | nil =>
    obtain rfl := Option.some_inj.mp h
    exact fun name hname => .inl hname
  | cons step rest ih =>
    by_cases hhere : IsFolderAt root here
    · rw [place?_cons_of_isFolderAt hhere] at h
      intro name hname
      split at h
      · exact (ih h name hname).imp_right (List.mem_cons_of_mem step)
      · split at h
        · split at h
          · cases h
          · exact (ih h name hname).imp (List.dropLast_subset here ·) (List.mem_cons_of_mem step)
        · rcases ih h name hname with hname | hname
          · rw [List.mem_append, List.mem_singleton] at hname
            exact hname.imp_right (List.mem_cons.mpr <| .inl ·)
          · exact .inr (List.mem_cons_of_mem step hname)
    · rw [place?_cons_of_not_isFolderAt hhere] at h
      cases h

/-- An entry that is put somewhere gives the folder at most the name that its way begins with. -/
theorem mem_names_put {entry : Entry} {name : String} (h : name ∈ (put entry names root).names) :
    name ∈ root.names ∨ name ∈ names := by
  rcases names with _ | ⟨first, _ | ⟨next, rest⟩⟩
  · exact .inl h
  · exact (OrderedMap.mem_names_insert.mp h).imp_right (List.mem_cons.mpr <| .inl ·)
  · rw [put] at h
    · split at h
      · exact (OrderedMap.mem_names_insert.mp h).imp_right (List.mem_cons.mpr <| .inl ·)
      · exact .inl h
    · exact List.cons_ne_nil _ _

theorem isStep_of_write? {content : ByteArray} (h : root.write? path content = some root')
    (hroot : ∀ name ∈ root.names, IsStep name) : ∀ name ∈ root'.names, IsStep name := by
  obtain ⟨steps, names, hsteps, hplace, -, -, rfl⟩ := write?_eq_some_iff.mp h
  intro name hname
  rcases mem_names_put hname with hname | hname
  · exact hroot name hname
  · have hstep := (mem_of_place? hplace name hname).resolve_left List.not_mem_nil
    exact isStep_of_pathSteps? hsteps name hstep

theorem mem_names_of_mem_files {folder : Folder} {file : String × ByteArray}
    (h : file ∈ folder.files) : file.1 ∈ folder.names := by
  obtain ⟨⟨name, entry⟩, hentry, hfile⟩ := List.mem_filterMap.mp h
  cases entry with
  | file content =>
    obtain rfl := Option.some_inj.mp hfile
    exact List.mem_map_of_mem hentry
  | folder inner => cases hfile

end Folder

namespace Store

variable {store loaded : Store} {folder folder' : Folder} {name : String}

theorem isStep_of_foldlM_writeTable {files : List (String × String)}
    (h : files.foldlM writeTable folder = .ok folder')
    (hfolder : ∀ name ∈ folder.names, IsStep name) : ∀ name ∈ folder'.names, IsStep name := by
  induction files generalizing folder with
  | nil =>
    obtain rfl := Except.ok.inj h
    exact hfolder
  | cons file files ih =>
    rw [List.foldlM_cons, writeTable] at h
    split at h
    · rename_i written hwritten
      exact ih h (Folder.isStep_of_write? hwritten hfolder)
    · cases h

theorem isStep_of_mem_names_save (h : save store .empty = .ok folder) :
    ∀ name ∈ folder.names, IsStep name :=
  isStep_of_foldlM_writeTable h (List.forall_mem_nil _)

/-! ## The tables in a folder -/

/-- The names under which tables are found in a folder: those that are not empty and make the name
of one of its files. -/
theorem mem_names_load (h : load folder = .ok store) :
    name ∈ store.names ↔ name ≠ "" ∧ fileName name ∈ folder.files.map (·.1) := by
  obtain ⟨tables, rfl, hread⟩ := ofFiles_eq_ok_iff.mp (show ofFiles folder.listing.files = _ from h)
  have hread' : (tableFiles folder.listing.files).map (fun file => tableName? file.1) =
      tables.map fun table => some table.1 := by
    rw [← List.forall₂_eq_eq_eq, List.forall₂_map_left_iff, List.forall₂_map_right_iff]
    exact hread.imp fun _ _ hfile => (readTable_eq_ok_iff.mp hfile).1
  have hname : some name ∈ tables.map (fun table => some table.1) ↔ name ∈ tables.map (·.1) := by
    simp
  rw [OrderedMap.mem_names_ofPairs, ← hname, ← hread', List.mem_map]
  simp only [mem_tableFiles, tableName?_eq_some_iff, files_listing, List.mem_map]
  constructor
  · rintro ⟨_, ⟨⟨file, hfile, rfl⟩, -⟩, hne, he⟩
    exact ⟨hne, file, hfile, FileName.ofText_injective he⟩
  · rintro ⟨hne, file, hfile, he⟩
    have hextension := hasExtension_json_iff.mpr
      ⟨_, mt bytes_eq_nil_iff.mp hne, bytes_fileName name⟩
    exact ⟨_, ⟨⟨file, hfile, rfl⟩, he ▸ hextension⟩, hne, congrArg FileName.ofText he⟩

/-! ## Saving and loading -/

/-- Whether the tables that are found have the names of those that were saved. -/
def KeepsNames (store loaded : Store) : Prop := ∀ name, name ∈ loaded.names ↔ name ∈ store.names

/-- Every table that is loaded after saving has a name that is kept. -/
theorem isTableName_of_mem_names_load (hsave : save store .empty = .ok folder)
    (hload : load folder = .ok loaded) (h : name ∈ loaded.names) : IsTableName name := by
  obtain ⟨hne, hfile⟩ := (mem_names_load hload).mp h
  obtain ⟨file, hmem, hname⟩ := List.mem_map.mp hfile
  have hstep := isStep_of_mem_names_save hsave _ (Folder.mem_names_of_mem_files hmem)
  rw [hname] at hstep
  constructor
  · exact hne
  · intro hslash
    exact hstep.no_slash (by rw [toList_fileName]; exact List.mem_append_left _ hslash)
  · exact fun hnull => hstep.no_null (by rw [toList_fileName]; exact List.mem_append_left _ hnull)

/-- Stores whose names can be saved keep all of them. -/
theorem keepsNames_of_isTableName (hdistinct : store.Distinct)
    (hname : ∀ name ∈ store.names, IsTableName name) (hsave : save store .empty = .ok folder)
    (hload : load folder = .ok loaded) : KeepsNames store loaded := by
  rw [save_empty hdistinct (List.forall_mem_map.mp hname)] at hsave
  split at hsave
  · obtain rfl := Except.ok.inj hsave
    intro name
    have hfiles : (Folder.files ⟨store.entries.map tableEntry⟩).map (·.1) =
        store.names.map fileName := by
      rw [Folder.files, List.filterMap_map, OrderedMap.names, List.map_map, List.map_filterMap,
        ← List.filterMap_eq_map]
      rfl
    rw [mem_names_load hload, hfiles, List.mem_map_of_injective fileName_injective]
    exact ⟨And.right, fun h => ⟨(hname name h).ne_empty, h⟩⟩
  · cases hsave

/-- When a store was saved into an empty folder and the folder could be loaded, the tables that are
found have the names of those that were saved exactly when each of these names has a character and
neither slashes nor null characters.

A name that leads out of the folder, as `../x` or `/tmp/x`, counts as one that cannot be saved,
since nothing is known of what surrounds the folder. Where a machine writes such a file elsewhere,
it is not found in the folder either; such a name has a slash, so neither side holds then. -/
theorem keepsNames_iff {tables : List (String × List Record)} {folder : Folder} {loaded : Store}
    (hsave : save (.ofPairs tables) .empty = .ok folder) (hload : load folder = .ok loaded) :
    KeepsNames (.ofPairs tables) loaded ↔
      ∀ name ∈ (OrderedMap.ofPairs tables).names, IsTableName name := by
  constructor
  · intro h name hname
    exact isTableName_of_mem_names_load hsave hload ((h name).mpr hname)
  · intro h
    exact keepsNames_of_isTableName (OrderedMap.distinct_ofPairs tables) h hsave hload

/-- Tables whose names have dots at their ends or look like names of files. -/
def dottedTables : List (String × List Record) := [("v1.2", []), ("..", []), (".a.json", [])]

theorem keepsNames_iff_dottedTables :
    ∃ folder loaded, save (.ofPairs dottedTables) .empty = .ok folder ∧
      load folder = .ok loaded ∧
      (KeepsNames (.ofPairs dottedTables) loaded ↔
        ∀ name ∈ (OrderedMap.ofPairs dottedTables).names, IsTableName name) := by
  have hname : ∀ table ∈ (OrderedMap.ofPairs dottedTables).entries, IsTableName table.1 := by
    decide
  have hrows : ∀ table ∈ (OrderedMap.ofPairs dottedTables).entries, table.2 = [] := by
    have hentries : (OrderedMap.ofPairs dottedTables).entries = dottedTables := rfl
    rw [hentries]
    simp [dottedTables]
  have hsave := (save_empty (OrderedMap.distinct_ofPairs dottedTables) hname).trans
    (if_pos (by decide))
  have hload := load_tableEntry (fun table htable => (hname table htable).ne_empty)
    fun table htable row hrow => absurd (hrows table htable ▸ hrow) List.not_mem_nil
  exact ⟨_, _, hsave, hload, keepsNames_iff hsave hload⟩

/-- A single table, whose name is empty. -/
def unnamedTables : List (String × List Record) := [("", [])]

/-- A table without a name is saved into a file whose name is the bare suffix, and is not found
there. -/
theorem not_keepsNames_unnamedTables :
    ∃ folder loaded, save (.ofPairs unnamedTables) .empty = .ok folder ∧
      load folder = .ok loaded ∧ ¬ KeepsNames (.ofPairs unnamedTables) loaded := by
  have hsave : save (.ofPairs unnamedTables) .empty =
      .ok ⟨[(fileName "", .file "[]".toUTF8)]⟩ := rfl
  have hload : load ⟨[(fileName "", .file "[]".toUTF8)]⟩ = .ok .empty := by
    have hnone : tableFiles (Folder.listing ⟨[(fileName "", .file "[]".toUTF8)]⟩).files = [] := by
      rw [tableFiles, List.filter_eq_nil_iff.mpr (by decide), List.mergeSort_nil]
    rw [load, ofListing, ofFiles, hnone]
    rfl
  refine ⟨_, _, hsave, hload, fun h => ?_⟩
  exact List.not_mem_nil ((h "").mpr (by decide))

end Store

end LogQuery
