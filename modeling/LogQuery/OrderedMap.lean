/-!
# Ordered maps

A map from names to values that remembers the order in which its names were first inserted.
Inserting a name again gives it a new value in its old place. Records, tables of a store and objects
in a document are all maps of this kind, so that whatever is listed comes out in the order it went
in.

An ordered map is a list of entries; `insert` never gives a name a second entry. Maps whose names
are all different are `Distinct`, and every map built from the empty one by insertions is.
-/

namespace LogQuery

/-- A list of named values in order of insertion. -/
structure OrderedMap (α : Type u) where
  /-- The names with their values. -/
  entries : List (String × α) := []

namespace OrderedMap

variable {α β : Type u}

/-- The map without entries. -/
def empty : OrderedMap α := {}

/-- The value of a name. -/
def get? (m : OrderedMap α) (name : String) : Option α :=
  (m.entries.find? (·.1 == name)).map (·.2)

/-- Whether the map has a name. -/
def contains (m : OrderedMap α) (name : String) : Bool := (m.get? name).isSome

/-- The entries after giving `name` a value: in place when the name is there, else at the end. -/
def insertEntry (name : String) (value : α) : List (String × α) → List (String × α)
  | [] => [(name, value)]
  | entry :: rest =>
    if entry.1 == name then (entry.1, value) :: rest
    else entry :: insertEntry name value rest

/-- Gives `name` a value: in place when the name is there, else at the end. -/
def insert (m : OrderedMap α) (name : String) (value : α) : OrderedMap α :=
  ⟨insertEntry name value m.entries⟩

/-- The names in order. -/
def names (m : OrderedMap α) : List String := m.entries.map (·.1)

/-- How many names the map has. -/
def size (m : OrderedMap α) : Nat := m.entries.length

/-- Inserts the pairs one after the other. -/
def insertAll (m : OrderedMap α) (pairs : List (String × α)) : OrderedMap α :=
  pairs.foldl (fun m pair => m.insert pair.1 pair.2) m

/-- The map built by inserting the pairs into the empty map. -/
def ofPairs (pairs : List (String × α)) : OrderedMap α := empty.insertAll pairs

/-- No name has two entries. -/
def Distinct (m : OrderedMap α) : Prop := m.names.Nodup

instance (m : OrderedMap α) : Decidable m.Distinct := inferInstanceAs (Decidable (List.Nodup _))

/-! ## Laws of insertion -/

/-- A name that is there keeps its place, a new one comes last. -/
theorem names_insertEntry (name : String) (value : α) (entries : List (String × α)) :
    (insertEntry name value entries).map (·.1) =
      if name ∈ entries.map (·.1) then entries.map (·.1) else entries.map (·.1) ++ [name] := by
  induction entries with
  | nil => simp [insertEntry]
  | cons entry rest ih =>
    by_cases h : entry.1 = name
    · simp [insertEntry, h]
    · have hne : name ≠ entry.1 := fun e => h e.symm
      by_cases hmem : name ∈ rest.map (·.1) <;> simp_all [insertEntry]

/-- A new name is added behind the others. -/
theorem names_insert (m : OrderedMap α) (name : String) (value : α) :
    (m.insert name value).names = if name ∈ m.names then m.names else m.names ++ [name] :=
  names_insertEntry name value m.entries

theorem Distinct.insert {m : OrderedMap α} (h : m.Distinct) (name : String) (value : α) :
    (m.insert name value).Distinct := by
  unfold Distinct at h ⊢
  rw [names_insert]
  split
  · exact h
  · rename_i hmem
    refine List.nodup_append.mpr ⟨h, by simp, ?_⟩
    intro a ha b hb
    have : b = name := by simpa using hb
    exact fun e => hmem (this ▸ e ▸ ha)

theorem distinct_empty : (empty : OrderedMap α).Distinct := by
  simp [Distinct, names, empty]

theorem Distinct.insertAll {m : OrderedMap α} (h : m.Distinct) (pairs : List (String × α)) :
    (m.insertAll pairs).Distinct := by
  induction pairs generalizing m with
  | nil => exact h
  | cons pair rest ih => exact ih (h.insert pair.1 pair.2)

/-- No name occurs twice, whatever the pairs. -/
theorem distinct_ofPairs (pairs : List (String × α)) : (ofPairs pairs).Distinct :=
  distinct_empty.insertAll pairs

theorem insertEntry_of_notMem {name : String} {value : α} {entries : List (String × α)}
    (h : name ∉ entries.map (·.1)) :
    insertEntry name value entries = entries ++ [(name, value)] := by
  induction entries with
  | nil => rfl
  | cons entry rest ih =>
    rw [List.map_cons, List.mem_cons, not_or] at h
    have hne : (entry.1 == name) = false := beq_false_of_ne fun e => h.1 e.symm
    rw [insertEntry, hne, ih h.2]
    rfl

/-- Pairs of new and different names are appended as they are. -/
theorem entries_insertAll {m : OrderedMap α} {pairs : List (String × α)}
    (h : (m.names ++ pairs.map (·.1)).Nodup) :
    (m.insertAll pairs).entries = m.entries ++ pairs := by
  induction pairs generalizing m with
  | nil => exact (List.append_nil _).symm
  | cons pair rest ih =>
    have hnew : pair.1 ∉ m.names := fun hmem =>
      (List.nodup_append.mp h).2.2 _ hmem _ List.mem_cons_self rfl
    have hentries : (m.insert pair.1 pair.2).entries = m.entries ++ [pair] :=
      insertEntry_of_notMem hnew
    have hrest : ((m.insert pair.1 pair.2).names ++ rest.map (·.1)).Nodup := by
      rw [names, hentries]
      simpa [names] using h
    show ((m.insert pair.1 pair.2).insertAll rest).entries = _
    rw [ih hrest, hentries, List.append_assoc, List.singleton_append]

/-- A map built from pairs of different names has these pairs as its entries. -/
theorem entries_ofPairs {pairs : List (String × α)} (h : (pairs.map (·.1)).Nodup) :
    (ofPairs pairs).entries = pairs :=
  entries_insertAll h

theorem find?_insertEntry (name : String) (value : α) (entries : List (String × α))
    (other : String) :
    ((insertEntry name value entries).find? (·.1 == other)).map (·.2) =
      if name = other then some value else (entries.find? (·.1 == other)).map (·.2) := by
  induction entries with
  | nil => by_cases h : name = other <;> simp [insertEntry, h]
  | cons entry rest ih =>
    by_cases h : entry.1 = name
    · by_cases ho : name = other <;> simp_all [insertEntry]
    · by_cases hother : entry.1 = other
      · have hne : other ≠ name := fun e => h (hother.trans e)
        simp [insertEntry, hother, hne, hne.symm]
      · simpa [insertEntry, h, hother] using ih

/-- After an insertion the name has the new value and every other name the old one. -/
@[simp]
theorem get?_insert (m : OrderedMap α) (name : String) (value : α) (other : String) :
    (m.insert name value).get? other = if name = other then some value else m.get? other :=
  find?_insertEntry name value m.entries other

/-- A name has no value when it is none of the names of the map. -/
theorem get?_eq_none_iff {m : OrderedMap α} {name : String} :
    m.get? name = none ↔ name ∉ m.names := by
  rw [get?, Option.map_eq_none_iff, List.find?_eq_none, names, List.mem_map]
  constructor
  · rintro h ⟨entry, hentry, rfl⟩
    exact h entry hentry (beq_self_eq_true _)
  · intro h entry hentry he
    exact h ⟨entry, hentry, eq_of_beq he⟩

/-- A map without double names has exactly its entries. -/
theorem Distinct.get?_eq_some_iff {m : OrderedMap α} (h : m.Distinct) {name : String} {value : α} :
    m.get? name = some value ↔ (name, value) ∈ m.entries := by
  obtain ⟨entries⟩ := m
  show (entries.find? (·.1 == name)).map (·.2) = some value ↔ (name, value) ∈ entries
  have hnames : (entries.map (·.1)).Nodup := h
  induction entries with
  | nil => simp
  | cons entry rest ih =>
    rw [List.map_cons, List.nodup_cons] at hnames
    by_cases he : entry.1 = name
    · subst he
      have hrest : (entry.1, value) ∉ rest := fun hmem =>
        hnames.1 (List.mem_map.mpr ⟨_, hmem, rfl⟩)
      simp [hrest, Prod.ext_iff, eq_comm]
    · have hne : (name, value) ≠ entry := fun e => he (congrArg Prod.fst e).symm
      simp only [List.find?_cons, beq_false_of_ne he, List.mem_cons, hne, false_or]
      exact ih hnames.2 hnames.2

theorem mem_names_insert {m : OrderedMap α} {name : String} {value : α} {other : String} :
    other ∈ (m.insert name value).names ↔ other ∈ m.names ∨ other = name := by
  rw [names_insert]
  split
  · rename_i hname
    exact ⟨.inl, fun h => h.elim id fun he => he ▸ hname⟩
  · rw [List.mem_append, List.mem_singleton]

/-! ## Laws of successive insertions -/

theorem insertAll_cons (m : OrderedMap α) (pair : String × α) (pairs : List (String × α)) :
    m.insertAll (pair :: pairs) = (m.insert pair.1 pair.2).insertAll pairs := rfl

theorem insertAll_append (m : OrderedMap α) (pairs later : List (String × α)) :
    m.insertAll (pairs ++ later) = (m.insertAll pairs).insertAll later :=
  List.foldl_append

/-- Names that are inserted are there, and no others are new. -/
theorem mem_names_insertAll {m : OrderedMap α} {pairs : List (String × α)} {name : String} :
    name ∈ (m.insertAll pairs).names ↔ name ∈ m.names ∨ name ∈ pairs.map (·.1) := by
  induction pairs generalizing m with
  | nil => simp [insertAll]
  | cons pair pairs ih =>
    rw [insertAll_cons, ih, mem_names_insert, List.map_cons, List.mem_cons, or_assoc]

/-- A map built from pairs has their names. -/
theorem mem_names_ofPairs {pairs : List (String × α)} {name : String} :
    name ∈ (ofPairs pairs).names ↔ name ∈ pairs.map (·.1) := by
  rw [ofPairs, mem_names_insertAll]
  exact or_iff_right List.not_mem_nil

/-- After successive insertions a name has the value that was inserted under it last, or else the
one that it had before. -/
theorem get?_insertAll (m : OrderedMap α) (pairs : List (String × α)) (name : String) :
    (m.insertAll pairs).get? name =
      ((pairs.reverse.find? (·.1 == name)).map (·.2)).or (m.get? name) := by
  induction pairs generalizing m with
  | nil => rfl
  | cons pair pairs ih =>
    rw [insertAll_cons, ih, get?_insert, List.reverse_cons, List.find?_append, List.find?_cons]
    cases pairs.reverse.find? (·.1 == name) with
    | some found => rfl
    | none =>
      by_cases h : pair.1 = name
      · simp [h]
      · rw [if_neg h, beq_false_of_ne h]
        rfl

/-- Names that are not inserted keep their values. -/
theorem get?_insertAll_of_notMem {m : OrderedMap α} {pairs : List (String × α)} {name : String}
    (h : name ∉ pairs.map (·.1)) : (m.insertAll pairs).get? name = m.get? name := by
  have hnone : pairs.reverse.find? (·.1 == name) = none := by
    rw [List.find?_eq_none]
    intro pair hpair he
    exact h (List.mem_map.mpr ⟨pair, List.mem_reverse.mp hpair, eq_of_beq he⟩)
  rw [get?_insertAll, hnone]
  rfl

/-- A name has the value that was inserted under it last. -/
theorem get?_insertAll_cons {m : OrderedMap α} {later : List (String × α)} {name : String}
    (value : α) (h : name ∉ later.map (·.1)) :
    (m.insertAll ((name, value) :: later)).get? name = some value := by
  rw [insertAll_cons, get?_insertAll_of_notMem h, get?_insert, if_pos rfl]

end OrderedMap

end LogQuery
