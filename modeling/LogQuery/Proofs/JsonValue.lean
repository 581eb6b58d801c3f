import LogQuery.Json.Field
import LogQuery.Proofs.JsonReading

/-!
# Values as documents and back

The values that a document gives back as they were (`Value.IsExact`) have no floating-point numbers,
no record that names a column twice, and only so many lists and records inside one another. What
stands for such a value is read back as it (`toValue?_ofValue`), and the rows of a table likewise
(`rows?_ofRows`).
-/

namespace LogQuery

/-- The values without a floating-point number at any depth. -/
inductive Value.IsFloatFree : Value → Prop where
  | null : IsFloatFree .null
  | boolean (b : Bool) : IsFloatFree (.boolean b)
  | integer (n : Int64) : IsFloatFree (.integer n)
  | string (s : String) : IsFloatFree (.string s)
  | array {items : List Value} (h : ∀ item ∈ items, IsFloatFree item) : IsFloatFree (.array items)
  | object {fields : Record} (h : ∀ entry ∈ fields.entries, IsFloatFree entry.2) :
    IsFloatFree (.object fields)

/-- The values that a document gives back as they were, when at most `room` lists and records stand
inside one another. -/
inductive Value.IsExact : (room : Nat) → Value → Prop where
  | null {room : Nat} : IsExact room .null
  | boolean {room : Nat} (b : Bool) : IsExact room (.boolean b)
  | integer {room : Nat} (n : Int64) : IsExact room (.integer n)
  | string {room : Nat} (s : String) : IsExact room (.string s)
  | array {room : Nat} {items : List Value} (h : ∀ item ∈ items, IsExact room item) :
    IsExact (room + 1) (.array items)
  /-- A record of such values under different names. -/
  | object {room : Nat} {fields : Record} (hdistinct : fields.Distinct)
    (h : ∀ entry ∈ fields.entries, IsExact room entry.2) : IsExact (room + 1) (.object fields)

namespace Value

attribute [simp] IsExact.null IsExact.boolean IsExact.integer IsExact.string

@[simp]
theorem isExact_array {room : Nat} {items : List Value} :
    (array items).IsExact (room + 1) ↔ ∀ item ∈ items, item.IsExact room :=
  ⟨fun h => by cases h; assumption, .array⟩

@[simp]
theorem isExact_object {room : Nat} {fields : Record} :
    (object fields).IsExact (room + 1) ↔
      fields.Distinct ∧ ∀ entry ∈ fields.entries, entry.2.IsExact room :=
  ⟨fun h => by cases h; exact ⟨‹_›, ‹_›⟩, fun h => .object h.1 h.2⟩

/-- More room does no harm. -/
theorem IsExact.mono {room room' : Nat} {value : Value} (h : value.IsExact room)
    (hle : room ≤ room') : value.IsExact room' := by
  induction h generalizing room' with
  | null => exact .null
  | boolean b => exact .boolean b
  | integer n => exact .integer n
  | string s => exact .string s
  | array _ ih =>
    obtain ⟨room', rfl⟩ : ∃ n, room' = n + 1 := ⟨room' - 1, by omega⟩
    exact .array fun item hitem => ih item hitem (by omega)
  | object hdistinct _ ih =>
    obtain ⟨room', rfl⟩ : ∃ n, room' = n + 1 := ⟨room' - 1, by omega⟩
    exact .object hdistinct fun entry hentry => ih entry hentry (by omega)

/-- Exact values have no floating-point numbers in them. -/
theorem IsExact.isFloatFree {room : Nat} {value : Value} (h : value.IsExact room) :
    value.IsFloatFree := by
  induction h with
  | null => exact .null
  | boolean b => exact .boolean b
  | integer n => exact .integer n
  | string s => exact .string s
  | array _ ih => exact .array ih
  | object _ _ ih => exact .object ih

end Value

namespace Json

theorem ofValues_eq_map (items : List Value) : ofValues items = items.map ofValue := by
  induction items with
  | nil => rfl
  | cons item items ih => rw [ofValues, ih, List.map_cons]

theorem ofEntries_eq_map (entries : List (String × Value)) :
    ofEntries entries = entries.map fun entry => (entry.1, ofValue entry.2) := by
  induction entries with
  | nil => rfl
  | cons entry entries ih => rw [ofEntries, ih, List.map_cons]

theorem ofRecord_eq_ofValue (record : Record) : ofRecord record = ofValue (.object record) := rfl

/-- A value without floating-point numbers is written as an exact document: its whole numbers have
sixty-four bits. -/
theorem isExact_ofValue {value : Value} (h : value.IsFloatFree) : IsExact (ofValue value) := by
  induction h with
  | null => exact .null
  | boolean b => exact .boolean b
  | integer n =>
    have hleast := n.le_toInt
    have hgreatest := n.toInt_lt
    exact .integer (by omega) (by omega)
  | string s => exact .string s
  | array _ ih =>
    rw [ofValue, ofValues_eq_map]
    exact .array (List.forall_mem_map.mpr ih)
  | object _ ih =>
    rw [ofValue, ofEntries_eq_map]
    exact .object (List.forall_mem_map.mpr ih)

theorem integerValue_toInt (n : Int64) : integerValue n.toInt = .integer n := by
  have hleast := n.le_toInt
  have hgreatest := n.toInt_lt
  rw [integerValue, if_pos (by constructor <;> omega), Int64.ofInt_toInt]

theorem toValues?_map_ofValue {room : Nat} {items : List Value}
    (h : ∀ item ∈ items, toValue? room (ofValue item) = some item) :
    toValues? room (items.map ofValue) = some items := by
  induction items with
  | nil => rfl
  | cons item items ih =>
    rw [List.forall_mem_cons] at h
    rw [List.map_cons, toValues?, h.1, ih h.2]
    rfl

theorem toFields?_map_ofValue {room : Nat} {entries : List (String × Value)}
    (h : ∀ entry ∈ entries, toValue? room (ofValue entry.2) = some entry.2) :
    toFields? room (entries.map fun entry => (entry.1, ofValue entry.2)) = some entries := by
  induction entries with
  | nil => rfl
  | cons entry entries ih =>
    rw [List.forall_mem_cons] at h
    rw [List.map_cons, toFields?, h.1, ih h.2]
    rfl

/-- An exact value is read back, with room for as many levels as it has. -/
theorem toValue?_ofValue {room : Nat} {value : Value} (h : value.IsExact room) :
    toValue? room (ofValue value) = some value := by
  induction h with
  | null => rfl
  | boolean b => rfl
  | integer n => rw [ofValue, toValue?, integerValue_toInt]
  | string s => rfl
  | array _ ih =>
    rw [ofValue, toValue?, ofValues_eq_map, toValues?_map_ofValue ih]
    rfl
  | @object _ fields hdistinct _ ih =>
    have hfields : OrderedMap.ofPairs fields.entries = fields :=
      congrArg OrderedMap.mk (OrderedMap.entries_ofPairs hdistinct)
    rw [ofValue, toValue?, ofEntries_eq_map, toFields?_map_ofValue ih, Option.map_some, hfields]

theorem toRecord?_ofRecord {room : Nat} {record : Record}
    (h : (Value.object record).IsExact room) : toRecord? room (ofRecord record) = some record := by
  rw [toRecord?, ofRecord_eq_ofValue, toValue?_ofValue h]
  rfl

theorem mapM_toRecord?_map_ofRecord {room : Nat} {rows : List Record}
    (h : ∀ row ∈ rows, (Value.object row).IsExact room) :
    (rows.map ofRecord).mapM (toRecord? room) = some rows := by
  induction rows with
  | nil => rfl
  | cons row rows ih =>
    rw [List.forall_mem_cons] at h
    rw [List.map_cons, List.mapM_cons, toRecord?_ofRecord h.1, ih h.2]
    rfl

theorem rows?_ofRows {room : Nat} {rows : List Record}
    (h : ∀ row ∈ rows, (Value.object row).IsExact room) :
    (ofRows rows).rows? (room + 1) = some rows :=
  mapM_toRecord?_map_ofRecord h

/-- Rows without floating-point numbers are written as an exact document. -/
theorem isExact_ofRows {room : Nat} {rows : List Record}
    (h : ∀ row ∈ rows, (Value.object row).IsExact room) : IsExact (ofRows rows) :=
  .array (List.forall_mem_map.mpr fun row hrow => isExact_ofValue (h row hrow).isFloatFree)

end Json

end LogQuery
