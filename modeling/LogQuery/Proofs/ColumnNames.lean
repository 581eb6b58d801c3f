import LogQuery.Proofs.AppendedStages
import LogQuery.Proofs.StageRows

/-!
# Names of columns

A record can be written down with a name that two columns have, but it cannot be built: inserting a
column, collecting pairs and reading a document all give a name that is there already a new value
(`isWellNamed_of_isBuilt`). Stages build their rows in the same way, so no record in an answer has a
name twice when the records of the store were built (`nodup_names_execute`), however often a
projection repeats a column and however the counts of a summary are called.
-/

namespace LogQuery

namespace Value

/-- A record is a value or stands somewhere inside it. -/
inductive HasRecord (record : Record) : Value → Prop where
  | self : HasRecord record (.object record)
  | item {items : List Value} {value : Value} (hitem : value ∈ items)
    (h : HasRecord record value) : HasRecord record (.array items)
  | column {fields : Record} {entry : String × Value} (hentry : entry ∈ fields.entries)
    (h : HasRecord record entry.2) : HasRecord record (.object fields)

/-- No record that is the value or stands inside it has two columns of the same name. -/
def IsWellNamed (value : Value) : Prop := ∀ record, value.HasRecord record → record.Distinct

theorem isWellNamed_array {items : List Value} :
    (array items).IsWellNamed ↔ ∀ item ∈ items, item.IsWellNamed := by
  constructor
  · intro h item hitem record hrecord
    exact h record (.item hitem hrecord)
  · intro h record hrecord
    cases hrecord with
    | item hitem hrecord => exact h _ hitem record hrecord

/-- A record is well named when its own names differ and its values are well named. -/
theorem isWellNamed_object {fields : Record} :
    (object fields).IsWellNamed ↔ fields.HoldsOnly IsWellNamed := by
  constructor
  · intro h
    refine ⟨h fields .self, ?_⟩
    intro entry hentry record hrecord
    exact h record (.column hentry hrecord)
  · intro h record hrecord
    cases hrecord with
    | self => exact h.1
    | column hentry hrecord => exact h.2 _ hentry record hrecord

theorem isWellNamed_null : null.IsWellNamed := nofun

theorem isWellNamed_boolean (b : Bool) : (boolean b).IsWellNamed := nofun

theorem isWellNamed_integer (n : Int64) : (integer n).IsWellNamed := nofun

theorem isWellNamed_float (x : Float) : (float x).IsWellNamed := nofun

theorem isWellNamed_string (s : String) : (string s).IsWellNamed := nofun

/-- What stages make themselves is well named: texts and counts. -/
theorem includesMade_isWellNamed : IncludesMade IsWellNamed :=
  ⟨isWellNamed_null, isWellNamed_string, isWellNamed_integer⟩

theorem isWellNamed_insert {fields : Record} {value : Value}
    (h : (object fields).IsWellNamed) (hvalue : value.IsWellNamed) (name : String) :
    (object (fields.insert name value)).IsWellNamed := by
  rw [isWellNamed_object] at h ⊢
  refine ⟨h.1.insert name value, ?_⟩
  intro entry hentry
  rcases OrderedMap.mem_insertEntry hentry with rfl | hentry
  · exact hvalue
  · exact h.2 entry hentry

/-- A record made of pairs keeps the last value of each name. -/
theorem isWellNamed_ofPairs {pairs : List (String × Value)}
    (h : ∀ pair ∈ pairs, pair.2.IsWellNamed) : (object (.ofPairs pairs)).IsWellNamed :=
  isWellNamed_object.mpr (Record.holdsOnly_ofPairs h)

end Value

/-! ## Documents -/

namespace Json

mutual

/-- What a document denotes is well named, however often its objects repeat a member. -/
theorem isWellNamed_of_toValue? {room : Nat} {document : Json} {value : Value}
    (h : toValue? room document = some value) : value.IsWellNamed := by
  cases document with
  | null =>
    obtain rfl := Option.some_inj.mp h
    exact Value.isWellNamed_null
  | boolean b =>
    obtain rfl := Option.some_inj.mp h
    exact Value.isWellNamed_boolean b
  | integer n =>
    obtain rfl := Option.some_inj.mp h
    unfold integerValue
    split
    · exact Value.isWellNamed_integer _
    · exact Value.isWellNamed_float _
  | float x =>
    obtain rfl := Option.some_inj.mp h
    exact Value.isWellNamed_float x
  | string s =>
    obtain rfl := Option.some_inj.mp h
    exact Value.isWellNamed_string s
  | array items =>
    cases room with
    | zero => cases h
    | succ room =>
      obtain ⟨values, hvalues, rfl⟩ := Option.map_eq_some_iff.mp h
      exact Value.isWellNamed_array.mpr (isWellNamed_of_toValues? hvalues)
  | object members =>
    cases room with
    | zero => cases h
    | succ room =>
      obtain ⟨fields, hfields, rfl⟩ := Option.map_eq_some_iff.mp h
      exact Value.isWellNamed_ofPairs (isWellNamed_of_toFields? hfields)
  | meaningless => cases h
termination_by structural document

theorem isWellNamed_of_toValues? {room : Nat} {items : List Json} {values : List Value}
    (h : toValues? room items = some values) : ∀ value ∈ values, value.IsWellNamed := by
  cases items with
  | nil =>
    obtain rfl := Option.some_inj.mp h
    exact List.forall_mem_nil _
  | cons item items =>
    obtain ⟨first, hfirst, h⟩ := Option.bind_eq_some_iff.mp h
    obtain ⟨rest, hrest, h⟩ := Option.bind_eq_some_iff.mp h
    obtain rfl := Option.some_inj.mp h
    exact List.forall_mem_cons.mpr
      ⟨isWellNamed_of_toValue? hfirst, isWellNamed_of_toValues? hrest⟩
termination_by structural items

theorem isWellNamed_of_toFields? {room : Nat} {members : List (String × Json)}
    {fields : List (String × Value)} (h : toFields? room members = some fields) :
    ∀ field ∈ fields, field.2.IsWellNamed := by
  cases members with
  | nil =>
    obtain rfl := Option.some_inj.mp h
    exact List.forall_mem_nil _
  | cons member members =>
    obtain ⟨name, item⟩ := member
    obtain ⟨first, hfirst, h⟩ := Option.bind_eq_some_iff.mp h
    obtain ⟨rest, hrest, h⟩ := Option.bind_eq_some_iff.mp h
    obtain rfl := Option.some_inj.mp h
    exact List.forall_mem_cons.mpr
      ⟨isWellNamed_of_toValue? hfirst, isWellNamed_of_toFields? hrest⟩
termination_by structural members

end

end Json

/-! ## Built records -/

/-- The values whose records come about by inserting columns into the empty record, by collecting
pairs, or by reading documents. -/
inductive Value.IsBuilt : Value → Prop where
  | null : IsBuilt .null
  | boolean (b : Bool) : IsBuilt (.boolean b)
  | integer (n : Int64) : IsBuilt (.integer n)
  | float (x : Float) : IsBuilt (.float x)
  | string (s : String) : IsBuilt (.string s)
  | array {items : List Value} (h : ∀ item ∈ items, IsBuilt item) : IsBuilt (.array items)
  | empty : IsBuilt (.object .empty)
  | insert {fields : Record} {value : Value} (h : IsBuilt (.object fields))
    (hvalue : IsBuilt value) (name : String) : IsBuilt (.object (fields.insert name value))
  | collect {pairs : List (String × Value)} (h : ∀ pair ∈ pairs, IsBuilt pair.2) :
    IsBuilt (.object (.ofPairs pairs))
  | read {room : Nat} {document : Json} {value : Value}
    (h : Json.toValue? room document = some value) : IsBuilt value

theorem Value.isWellNamed_of_isBuilt {value : Value} (h : value.IsBuilt) : value.IsWellNamed := by
  induction h with
  | null => exact isWellNamed_null
  | boolean b => exact isWellNamed_boolean b
  | integer n => exact isWellNamed_integer n
  | float x => exact isWellNamed_float x
  | string s => exact isWellNamed_string s
  | array _ ih => exact isWellNamed_array.mpr ih
  | empty => exact isWellNamed_ofPairs (List.forall_mem_nil _)
  | insert _ _ name ih ihvalue => exact isWellNamed_insert ih ihvalue name
  | collect _ ih => exact isWellNamed_ofPairs ih
  | read h => exact Json.isWellNamed_of_toValue? h

namespace Query

variable {store : Store} {query : String} {rows : List Record}

/-- The rows that a query gives are well named when those of the store are. -/
theorem isWellNamed_of_run
    (h : ∀ table ∈ store.entries, ∀ row ∈ table.2, (Value.object row).IsWellNamed)
    (hrun : run store query = .ok rows) : ∀ row ∈ rows, (Value.object row).IsWellNamed := by
  obtain ⟨script, source, -, hsource, rfl⟩ := run_eq_ok_iff.mp hrun
  have hrows : ∀ row ∈ source, Record.HoldsOnly Value.IsWellNamed row := by
    intro row hrow
    exact Value.isWellNamed_object.mp (h _ (OrderedMap.mem_entries_of_get? hsource) row hrow)
  intro row hrow
  exact Value.isWellNamed_object.mpr
    (holdsOnly_runStages Value.includesMade_isWellNamed hrows script.stages row hrow)

/-- When the records of a store were built, no answer names a column twice: neither in the list of
its columns, nor in a row, nor in a record that stands inside a value of a row. -/
theorem nodup_names_execute
    (h : ∀ table ∈ store.entries, ∀ row ∈ table.2, (Value.object row).IsBuilt) (query : String)
    (elapsed : Float) :
    (execute store query elapsed).columns.Nodup ∧
      ∀ row ∈ (execute store query elapsed).rows, ∀ record,
        (Value.object row).HasRecord record → record.names.Nodup := by
  have hstore : ∀ table ∈ store.entries, ∀ row ∈ table.2, (Value.object row).IsWellNamed := by
    intro table htable row hrow
    exact Value.isWellNamed_of_isBuilt (h table htable row hrow)
  unfold execute
  cases hrun : run store query with
  | error error => exact ⟨List.nodup_nil, List.forall_mem_nil _⟩
  | ok rows =>
    have hrows := isWellNamed_of_run hstore hrun
    refine ⟨?_, hrows⟩
    cases rows with
    | nil => exact List.nodup_nil
    | cons row rest => exact hrows row List.mem_cons_self row .self

/-- A record that is given the same name twice. -/
def renamedRecord : Record := (OrderedMap.empty.insert "k" .null).insert "k" (.boolean true)

/-- A document with repeated members, one of them inside another. -/
def repetitiveDocument : Json :=
  .object [("g", .null), ("a", .integer 2),
    ("g", .array [.object [("n", .integer 1), ("n", .string "x")]])]

/-- Rows that are inserted, collected and read, all with repeated names. -/
def repetitiveRows : List Record :=
  [(renamedRecord.insert "g" (.object renamedRecord)).insert "k" .null,
    .ofPairs [("a", .integer 1), ("g", .array [.object renamedRecord]), ("a", .float 2)],
    .ofPairs [("g", .null), ("a", .integer 2),
      ("g", .array [.object (.ofPairs [("n", .integer 1), ("n", .string "x")])])]]

theorem isBuilt_repetitiveRows : ∀ row ∈ repetitiveRows, (Value.object row).IsBuilt := by
  have hrecord : (Value.object renamedRecord).IsBuilt :=
    .insert (.insert .empty .null "k") (.boolean true) "k"
  intro row hrow
  simp only [repetitiveRows, List.mem_cons, List.not_mem_nil, or_false] at hrow
  rcases hrow with rfl | rfl | rfl
  · exact .insert (.insert hrecord hrecord "g") .null "k"
  · refine .collect ?_
    intro pair hpair
    simp only [List.mem_cons, List.not_mem_nil, or_false] at hpair
    rcases hpair with rfl | rfl | rfl
    · exact .integer 1
    · exact .array (List.forall_mem_singleton.mpr hrecord)
    · exact .float 2
  · have hread : Json.toValue? 3 repetitiveDocument = some (.object (.ofPairs [("g", .null),
        ("a", .integer 2),
        ("g", .array [.object (.ofPairs [("n", .integer 1), ("n", .string "x")])])])) := rfl
    exact .read hread

theorem nodup_names_repetitiveRows :
    (∀ table ∈ OrderedMap.entries (.ofPairs [("Log", repetitiveRows)]), ∀ row ∈ table.2,
        (Value.object row).IsBuilt) ∧
      (execute (.ofPairs [("Log", repetitiveRows)])
        "Log | project g, a, g | summarize g = count(), g = dcount(a) by g" 2).columns.Nodup := by
  have hbuilt : ∀ table ∈ OrderedMap.entries (.ofPairs [("Log", repetitiveRows)]),
      ∀ row ∈ table.2, (Value.object row).IsBuilt := by
    intro table htable
    obtain rfl := List.mem_singleton.mp htable
    exact isBuilt_repetitiveRows
  exact ⟨hbuilt, (nodup_names_execute hbuilt _ 2).1⟩

end Query

end LogQuery
