import LogQuery.Proofs.ByteOrder
import LogQuery.Proofs.JsonValue
import LogQuery.Proofs.StableSort
import LogQuery.Store.Files

/-!
# Saving and loading stores

A store that is saved into an empty folder and loaded again has the same rows under the same names,
listed in the order of the names of their files (`load_of_save`). Saving makes one file for each
table (`save_empty`), whose name gives the name of the table back (`tableName?_fileName`) and whose
content gives the rows back (`readTable_tableFile`). The order is that of the bytes of the names.
-/

namespace LogQuery

open Text

/-- Names are ordered by their bytes. -/
instance : LinearOrder FileName where
  lt a b := a.bytes < b.bytes
  le_refl a := List.le_refl a.bytes
  le_trans _ _ _ := List.le_trans
  lt_iff_le_not_ge _ _ :=
    ⟨fun h => ⟨List.le_of_lt h, List.not_le.mpr h⟩, fun h => List.not_le.mp h.2⟩
  le_antisymm a b hab hba := congrArg FileName.mk (List.le_antisymm hab hba)
  le_total a b := List.le_total a.bytes b.bytes
  toDecidableLE := inferInstance

theorem FileName.ofText_injective : Function.Injective ofText := by
  intro s t h
  exact bytes_injective (congrArg FileName.bytes h)

namespace Store

/-! ## Names of files -/

/-- The names that a file for a table can have before the suffix. -/
structure IsTableName (name : String) : Prop where
  /-- There is a character. -/
  ne_empty : name ≠ ""
  /-- The file is in the folder itself. -/
  no_slash : '/' ∉ name.toList
  /-- The name is part of a path. -/
  no_null : '\x00' ∉ name.toList

instance (name : String) : Decidable (IsTableName name) :=
  decidable_of_iff (name ≠ "" ∧ '/' ∉ name.toList ∧ '\x00' ∉ name.toList)
    ⟨fun h => ⟨h.1, h.2.1, h.2.2⟩, fun h => ⟨h.ne_empty, h.no_slash, h.no_null⟩⟩

theorem toList_fileName (name : String) :
    (fileName name).toList = name.toList ++ ".json".toList := by
  rw [fileName, fileSuffix, String.toList_append]

theorem fileName_injective : Function.Injective fileName := by
  intro a b h
  have htext := congrArg String.toList h
  rw [toList_fileName, toList_fileName] at htext
  exact String.toList_inj.mp (List.append_cancel_right htext)

theorem bytes_fileName (name : String) : bytes (fileName name) = bytes name ++ bytes fileSuffix :=
  bytes_append name fileSuffix

/-- The stem of a name is what makes the name with the suffix behind it. -/
theorem stem?_eq_some_iff {file : FileName} {stem : List UInt8} :
    stem? file = some stem ↔ stem ≠ [] ∧ file.bytes = stem ++ bytes fileSuffix := by
  unfold stem?
  dsimp only
  constructor
  · intro h
    split at h
    · rename_i hfile
      obtain rfl := Option.some_inj.mp h
      exact hfile
    · cases h
  · rintro ⟨hne, hfile⟩
    have hlength : file.bytes.length - (bytes fileSuffix).length = stem.length := by
      rw [hfile, List.length_append, Nat.add_sub_cancel]
    have hstem : file.bytes.take (file.bytes.length - (bytes fileSuffix).length) = stem := by
      rw [hlength, hfile, List.take_left]
    rw [hstem]
    exact if_pos ⟨hne, hfile⟩

/-- A file has a table's name when it is the text that is named after the table. -/
theorem tableName?_eq_some_iff {file : FileName} {name : String} :
    tableName? file = some name ↔ name ≠ "" ∧ file = .ofText (fileName name) := by
  rw [tableName?, Option.bind_eq_some_iff]
  simp only [stem?_eq_some_iff, text?_eq_some_iff]
  constructor
  · rintro ⟨_, ⟨hne, hfile⟩, rfl⟩
    refine ⟨mt bytes_eq_nil_iff.mpr hne, ?_⟩
    rw [← bytes_fileName] at hfile
    exact congrArg FileName.mk hfile
  · rintro ⟨hne, rfl⟩
    exact ⟨_, ⟨mt bytes_eq_nil_iff.mp hne, bytes_fileName name⟩, rfl⟩

theorem tableName?_fileName {name : String} (h : name ≠ "") :
    tableName? (.ofText (fileName name)) = some name :=
  tableName?_eq_some_iff.mpr ⟨h, rfl⟩

/-- A file for a table is looked for in the folder itself. -/
theorem pathSteps?_fileName {name : String} (h : IsTableName name) :
    pathSteps? (fileName name) = some [fileName name] := by
  have htext := toList_fileName name
  have hslash : '/' ∉ (fileName name).toList := by
    rw [htext, List.mem_append, not_or]
    exact ⟨h.no_slash, by decide⟩
  have hplace : ¬ ((fileName name).toList = [] ∨ (fileName name).toList.head? = some '/' ∨
      '\x00' ∈ (fileName name).toList) := by
    rintro (he | he | he)
    · exact absurd (htext ▸ he) (by simp)
    · exact hslash (List.mem_of_mem_head? he)
    · rw [htext, List.mem_append] at he
      exact he.elim h.no_null (by decide)
  rw [pathSteps?, if_neg hplace, List.splitOn_eq_singleton hslash, List.map_singleton,
    String.ofList_toList]

/-- The name of a file for a table is no step that stays or goes back. -/
theorem fileName_ne {name : String} : ∀ step ∈ ["", ".", ".."], fileName name ≠ step := by
  have hshort : ∀ step ∈ ["", ".", ".."], step.toList.length < 5 := by decide
  rintro step hstep rfl
  have hlength := hshort _ hstep
  rw [toList_fileName, List.length_append] at hlength
  exact absurd hlength (Nat.not_lt.mpr (Nat.le_add_left _ _))

theorem place?_fileName (folder : Folder) (name : String) :
    folder.place? [] [fileName name] = some [fileName name] := by
  have hstay : ¬ (fileName name = "" ∨ fileName name = ".") := by
    rintro (he | he)
    all_goals exact fileName_ne _ (by simp) he
  rw [Folder.place?]
  simp only [Entry.descend?]
  rw [if_neg hstay, if_neg (fileName_ne _ (by simp)), List.nil_append, Folder.place?]

/-- A new file for a table is added to the folder, unless its name is too long. -/
theorem write?_fileName {name : String} (h : IsTableName name) {folder : Folder}
    (hnew : folder.get? (fileName name) = none) (content : ByteArray) :
    folder.write? (fileName name) content =
      if fitsEntry (fileName name) then some (folder.insert (fileName name) (.file content))
      else none := by
  have hentry : (Entry.folder folder).descend? [fileName name] = none := by
    rw [Entry.descend?, hnew]
    rfl
  rw [Folder.write?, pathSteps?_fileName h]
  simp only [Option.bind_eq_bind, Option.bind_some, place?_fileName, hentry, List.all_cons,
    List.all_nil, Bool.and_true, Folder.put]

/-! ## Saving -/

/-- The file that holds a table, as it is entered into a folder. -/
def tableEntry (table : String × List Record) : String × Entry :=
  (fileName table.1, .file (Json.ofRows table.2).indentedText.toUTF8)

/-- Writes the file of a table into a folder. -/
def writeTable (folder : Folder) (file : String × String) : Except StoreError Folder :=
  match folder.write? file.1 file.2.toUTF8 with
  | some folder => .ok folder
  | none => .error .inaccessible

theorem save_eq_foldlM (store : Store) (folder : Folder) :
    save store folder = store.files.foldlM writeTable folder := rfl

/-- A table that is not there yet is added, if its name fits. -/
theorem writeTable_of_new {folder : Folder} {table : String × List Record}
    (hname : IsTableName table.1) (hnew : fileName table.1 ∉ folder.names) :
    writeTable folder (fileName table.1, (Json.ofRows table.2).indentedText) =
      if fitsEntry (fileName table.1) then
        .ok (folder.insert (tableEntry table).1 (tableEntry table).2)
      else .error .inaccessible := by
  rw [writeTable, write?_fileName hname (OrderedMap.get?_eq_none_iff.mpr hnew)]
  by_cases hfits : fitsEntry (fileName table.1) = true
  · rw [if_pos hfits, if_pos hfits]
    rfl
  · rw [if_neg hfits, if_neg hfits]

/-- Tables with different names are all added, if their names fit. -/
theorem foldlM_writeTable {tables : List (String × List Record)} {folder : Folder}
    (hname : ∀ table ∈ tables, IsTableName table.1)
    (hnew : (folder.names ++ tables.map fun table => fileName table.1).Nodup) :
    (tables.map fun table => (fileName table.1, (Json.ofRows table.2).indentedText)).foldlM
        writeTable folder =
      if tables.all (fun table => fitsEntry (fileName table.1)) then
        .ok (folder.insertAll (tables.map tableEntry))
      else .error .inaccessible := by
  induction tables generalizing folder with
  | nil => rfl
  | cons table tables ih =>
    rw [List.forall_mem_cons] at hname
    have htable : fileName table.1 ∉ folder.names := fun hmem =>
      (List.nodup_append.mp hnew).2.2 _ hmem _ List.mem_cons_self rfl
    have hnames : (folder.insert (tableEntry table).1 (tableEntry table).2).names =
        folder.names ++ [fileName table.1] := by
      rw [OrderedMap.names_insert]
      exact if_neg htable
    rw [List.map_cons, List.foldlM_cons, writeTable_of_new hname.1 htable, List.all_cons]
    by_cases hfits : fitsEntry (fileName table.1) = true
    · rw [if_pos hfits, hfits, Bool.true_and]
      refine ih hname.2 ?_
      rw [hnames, List.append_assoc]
      exact hnew
    · rw [if_neg hfits, Bool.eq_false_iff.mpr hfits]
      rfl

/-- Saving a store into an empty folder makes one file for each table, and fails only when the name
of one is too long. -/
theorem save_empty {store : Store} (hdistinct : store.Distinct)
    (hname : ∀ table ∈ store.entries, IsTableName table.1) :
    save store .empty =
      if store.entries.all (fun table => fitsEntry (fileName table.1)) then
        .ok ⟨store.entries.map tableEntry⟩
      else .error .inaccessible := by
  have hnames : (store.entries.map fun table => fileName table.1).Nodup := by
    have hmap := hdistinct.map fileName_injective
    rwa [OrderedMap.names, List.map_map] at hmap
  have hentries : OrderedMap.insertAll .empty (store.entries.map tableEntry) =
      ⟨store.entries.map tableEntry⟩ := by
    refine congrArg OrderedMap.mk (OrderedMap.entries_ofPairs ?_)
    rwa [List.map_map]
  rw [save_eq_foldlM, ← hentries]
  exact foldlM_writeTable hname hnames

/-! ## Loading -/

/-- The file that holds a table, as it is found in a folder. -/
def tableFile (table : String × List Record) : FileName × ByteArray :=
  (.ofText (fileName table.1), (Json.ofRows table.2).indentedText.toUTF8)

/-- What is found in a folder are its files. -/
theorem files_listing (folder : Folder) :
    folder.listing.files = folder.files.map fun file => (.ofText file.1, file.2) := by
  rw [Listing.files, Folder.listing, Folder.files, List.filterMap_map, List.map_filterMap]
  refine List.filterMap_congr fun entry _ => ?_
  rw [Option.map_map]
  rfl

theorem files_listing_tableEntry (tables : List (String × List Record)) :
    (Folder.listing ⟨tables.map tableEntry⟩).files = tables.map tableFile := by
  rw [Listing.files, Folder.listing, List.filterMap_map, List.filterMap_map,
    ← List.filterMap_eq_map]
  rfl

/-- The document that is written for records is read as these records. -/
theorem rows?_indentedText {rows : List Record}
    (h : ∀ row ∈ rows, (Value.object row).IsExact (Json.maxDepth - 1)) :
    rows? (Json.ofRows rows).indentedText.toUTF8 = some rows := by
  rw [rows?, Json.indentedText, (Json.reads_indented (Json.isExact_ofRows h) 0).ofBytes?]
  exact Json.rows?_ofRows h

/-- The file of a table is read as the table. -/
theorem readTable_tableFile {table : String × List Record} (hname : table.1 ≠ "")
    (hrows : ∀ row ∈ table.2, (Value.object row).IsExact (Json.maxDepth - 1)) :
    readTable (tableFile table) = .ok table := by
  simp only [readTable, tableFile, tableName?_fileName hname, rows?_indentedText hrows]

theorem mapM_readTable {tables : List (String × List Record)}
    (hname : ∀ table ∈ tables, table.1 ≠ "")
    (hrows : ∀ table ∈ tables, ∀ row ∈ table.2, (Value.object row).IsExact (Json.maxDepth - 1)) :
    (tables.map tableFile).mapM readTable = .ok tables := by
  induction tables with
  | nil => rfl
  | cons table tables ih =>
    rw [List.forall_mem_cons] at hname hrows
    rw [List.map_cons, List.mapM_cons, readTable_tableFile hname.1 hrows.1, ih hname.2 hrows.2]
    rfl

/-- All files of a store are taken, in the order of the bytes of their names. -/
theorem tableFiles_tableFile {tables : List (String × List Record)}
    (hname : ∀ table ∈ tables, table.1 ≠ "") :
    tableFiles (tables.map tableFile) =
      (sortedBy (fun table => FileName.ofText (fileName table.1)) tables).map tableFile := by
  have hall : ∀ file ∈ tables.map tableFile, isTableFile file.1 = true := by
    refine List.forall_mem_map.mpr fun table htable => ?_
    have hstem : stem? (tableFile table).1 = some (bytes table.1) :=
      stem?_eq_some_iff.mpr ⟨mt bytes_eq_nil_iff.mp (hname table htable), bytes_fileName table.1⟩
    rw [isTableFile, hstem]
    rfl
  have hsort : tableFiles (tables.map tableFile) =
      sortedBy (fun file : FileName × ByteArray => file.1) (tables.map tableFile) := by
    rw [tableFiles, List.filter_eq_self.mpr hall]
    rfl
  rw [hsort, ← map_sortedBy]
  rfl

/-- Tables that are saved and loaded again are listed in the order of their files. -/
theorem load_tableEntry {tables : List (String × List Record)}
    (hname : ∀ table ∈ tables, table.1 ≠ "")
    (hrows : ∀ table ∈ tables, ∀ row ∈ table.2, (Value.object row).IsExact (Json.maxDepth - 1)) :
    load ⟨tables.map tableEntry⟩ =
      .ok (.ofPairs (sortedBy (fun table => FileName.ofText (fileName table.1)) tables)) := by
  have hmem : ∀ {table}, table ∈ sortedBy (fun table => FileName.ofText (fileName table.1)) tables →
      table ∈ tables := mem_sortedBy.mp
  rw [load, ofListing, files_listing_tableEntry, ofFiles, tableFiles_tableFile hname,
    mapM_readTable (fun table h => hname table (hmem h)) fun table h => hrows table (hmem h)]
  rfl

/-- Tables with different names have different files, so sorting them by their files leaves the
names in strictly ascending order. -/
theorem pairwise_fileName_sortedBy {tables : List (String × List Record)}
    (h : (tables.map (·.1)).Nodup) :
    ((sortedBy (fun table => FileName.ofText (fileName table.1)) tables).map (·.1)).Pairwise
      fun a b => bytes (fileName a) < bytes (fileName b) := by
  have hfiles : (tables.map fun table => FileName.ofText (fileName table.1)).Nodup := by
    have hmap := h.map (FileName.ofText_injective.comp fileName_injective)
    rwa [List.map_map] at hmap
  rw [List.pairwise_map]
  exact (pairwise_lt_sortedBy hfiles).imp id

/-- A store that is saved into an empty folder and loaded again has the same rows under the same
names, and lists the names in the order of the bytes of the names of their files. -/
theorem load_of_save {tables : List (String × List Record)} {folder : Folder}
    (hname : ∀ table ∈ (OrderedMap.ofPairs tables).entries, IsTableName table.1)
    (hexact : ∀ table ∈ (OrderedMap.ofPairs tables).entries,
      (Value.array (table.2.map Value.object)).IsExact Json.maxDepth)
    (hsave : save (.ofPairs tables) .empty = .ok folder) :
    ∃ loaded, load folder = .ok loaded ∧
      (∀ name, loaded.get? name = (OrderedMap.ofPairs tables).get? name) ∧
      loaded.names.Pairwise fun a b => bytes (fileName a) < bytes (fileName b) := by
  have hdistinct := OrderedMap.distinct_ofPairs tables
  generalize OrderedMap.ofPairs tables = store at *
  have hperm := perm_sortedBy (fun table => FileName.ofText (fileName table.1)) store.entries
  have hentries := OrderedMap.entries_ofPairs ((hperm.map _).nodup_iff.mpr hdistinct)
  have hload := load_tableEntry (fun table h => (hname table h).ne_empty) fun table h =>
    List.forall_mem_map.mp (Value.isExact_array.mp (hexact table h))
  rw [save_empty hdistinct hname] at hsave
  split at hsave
  · obtain rfl := Except.ok.inj hsave
    refine ⟨_, hload, fun name => Option.ext fun rows => ?_, ?_⟩
    · rw [(OrderedMap.distinct_ofPairs _).get?_eq_some_iff, hdistinct.get?_eq_some_iff, hentries,
        hperm.mem_iff]
    · rw [OrderedMap.names, hentries]
      exact pairwise_fileName_sortedBy hdistinct
  · cases hsave

/-- Tables one of which is registered twice, with names whose order is not that of their files, and
with characters that have to be escaped, nested values and the least whole number. -/
def sampleTables : List (String × List Record) :=
  [("a", []),
   ("v1.2", [⟨[("text", .string "\x00\t\"\\ é \u2028"), ("", .integer (-0x8000000000000000))]⟩,
     ⟨[]⟩]),
   ("a-", [⟨[("z", .array [.null, .array [], .object ⟨[("é", .boolean true)]⟩])]⟩]),
   ("a", [⟨[("b", .string ""), ("a", .null)]⟩])]

theorem load_of_save_sampleTables :
    (∀ table ∈ (OrderedMap.ofPairs sampleTables).entries, IsTableName table.1) ∧
      (∀ table ∈ (OrderedMap.ofPairs sampleTables).entries,
        (Value.array (table.2.map Value.object)).IsExact Json.maxDepth) ∧
      ∃ folder, save (.ofPairs sampleTables) .empty = .ok folder ∧
        ∃ loaded, load folder = .ok loaded ∧
          (∀ name, loaded.get? name = (OrderedMap.ofPairs sampleTables).get? name) ∧
          loaded.names.Pairwise fun a b => bytes (fileName a) < bytes (fileName b) := by
  have hname : ∀ table ∈ (OrderedMap.ofPairs sampleTables).entries, IsTableName table.1 := by
    decide
  have hexact : ∀ table ∈ (OrderedMap.ofPairs sampleTables).entries,
      (Value.array (table.2.map Value.object)).IsExact Json.maxDepth := by
    have hentries : (OrderedMap.ofPairs sampleTables).entries =
        [("a", sampleTables[3].2), sampleTables[1], sampleTables[2]] := rfl
    rw [hentries]
    simp [sampleTables, Json.maxDepth, OrderedMap.Distinct, OrderedMap.names, or_imp, forall_and]
  have hsave := (save_empty (OrderedMap.distinct_ofPairs sampleTables) hname).trans
    (if_pos (by decide))
  exact ⟨hname, hexact, _, hsave, load_of_save hname hexact hsave⟩

end Store

end LogQuery
