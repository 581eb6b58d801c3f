import LogQuery.Proofs.AppendedStages
import LogQuery.Proofs.StageRows

/-!
# Registered tables

A store is what successive registrations of tables make of the empty one, and everything it can be
asked follows from them (`registers_ofPairs`): the names in the order in which they first came, the
rows that each name was given last, how many rows that are, and the rows again as the answer to the
name alone, where the name is a query (`execute_name`).
-/

namespace LogQuery

open Text

namespace OrderedMap

variable {α : Type u}

/-- The names of a map built from pairs stand in the order in which they first occur among them. -/
theorem pairwise_names_ofPairs (pairs : List (String × α)) :
    (ofPairs pairs).names.Pairwise fun a b =>
      (pairs.map (·.1)).idxOf a < (pairs.map (·.1)).idxOf b := by
  induction pairs using List.reverseRecOn with
  | nil => exact List.Pairwise.nil
  | append_singleton pairs pair ih =>
    have hold : ∀ name ∈ (ofPairs pairs).names,
        ((pairs ++ [pair]).map (·.1)).idxOf name = (pairs.map (·.1)).idxOf name := by
      intro name hname
      rw [List.map_append, List.idxOf_append_of_mem (mem_names_ofPairs.mp hname)]
    have hpairs : (ofPairs pairs).names.Pairwise fun a b =>
        ((pairs ++ [pair]).map (·.1)).idxOf a < ((pairs ++ [pair]).map (·.1)).idxOf b := by
      refine ih.imp_of_mem fun ha hb hab => ?_
      rw [hold _ ha, hold _ hb]
      exact hab
    have hstep : (ofPairs (pairs ++ [pair])).names =
        ((ofPairs pairs).insert pair.1 pair.2).names := by
      rw [ofPairs, insertAll_append]
      rfl
    rw [hstep, names_insert]
    split
    · exact hpairs
    · rename_i hnew
      rw [List.pairwise_append]
      refine ⟨hpairs, List.pairwise_singleton _ _, fun name hname last hlast => ?_⟩
      obtain rfl := List.mem_singleton.mp hlast
      have hlater : pair.1 ∉ pairs.map (·.1) := fun hmem => hnew (mem_names_ofPairs.mpr hmem)
      -- the new name first occurs behind all the others
      rw [hold name hname, List.map_append, List.idxOf_append_of_notMem hlater]
      exact Nat.lt_add_right _ (List.idxOf_lt_length_of_mem (mem_names_ofPairs.mp hname))

/-- The value of a name is the one that was given last. -/
theorem get?_ofPairs (pairs : List (String × α)) (name : String) :
    (ofPairs pairs).get? name = (pairs.reverse.find? (·.1 == name)).map (·.2) := by
  rw [ofPairs, get?_insertAll]
  exact Option.or_none

end OrderedMap

/-! ## Names as queries -/

/-- A text that is a name of a table when it is read as a query. -/
structure IsQueryName (name : String) : Prop where
  ne_empty : name ≠ ""
  trim_eq : trim name.toList = name.toList
  no_bar : '|' ∉ name.toList
  no_newline : '\n' ∉ name.toList
  no_slashes : ¬ ['/', '/'] <+: name.toList

instance (name : String) : Decidable (IsQueryName name) :=
  decidable_of_iff (name ≠ "" ∧ trim name.toList = name.toList ∧ '|' ∉ name.toList ∧
      '\n' ∉ name.toList ∧ ¬ ['/', '/'] <+: name.toList)
    ⟨fun h => ⟨h.1, h.2.1, h.2.2.1, h.2.2.2.1, h.2.2.2.2⟩,
      fun h => ⟨h.ne_empty, h.trim_eq, h.no_bar, h.no_newline, h.no_slashes⟩⟩

/-- A name alone is a query without stages. -/
theorem Script.parse?_name {name : String} (h : IsQueryName name) :
    parse? name = some ⟨name, []⟩ := by
  have hsignificant : isSignificant name.toList = true := by
    rw [← Bool.not_eq_false, isSignificant_eq_false_iff, not_or]
    exact ⟨fun hnil => h.ne_empty (String.toList_eq_nil_iff.mp hnil), h.no_slashes⟩
  have hlines : significantLines name.toList = [name.toList] := by
    rw [significantLines_eq, List.splitOn_eq_singleton h.no_newline, List.map_singleton, h.trim_eq,
      List.filter_singleton, hsignificant]
    rfl
  have hsegments : segments name.toList = [name.toList] := segmentsFrom_of_bar_notMem h.no_bar
  have htrimmed : trimmed name.toList = name := by
    rw [trimmed, h.trim_eq, String.ofList_toList]
  rw [parse?, hlines]
  simp [hsegments, htrimmed]

theorem Query.execute_name {store : Store} {name : String} {rows : List Record}
    (h : IsQueryName name) (hrows : store.get? name = some rows) (elapsed : Float) :
    execute store name elapsed = .ofRows rows elapsed :=
  execute_of_run (run_eq_ok_iff.mpr ⟨_, rows, Script.parse?_name h, hrows, rfl⟩) elapsed

/-! ## Registrations -/

namespace Store

/-- What a store that was made by registrations answers: its names and rows are those that were
registered, its listing says how many rows there are, and a name that can be read as a query is
answered by the rows. -/
structure Registers (registrations : List (String × List Record)) (store : Store) : Prop where
  mem_names : ∀ name, name ∈ store.names ↔ name ∈ registrations.map (·.1)
  nodup_names : store.names.Nodup
  /-- The names stand in the order of their first registrations. -/
  names_in_order : store.names.Pairwise fun a b =>
    (registrations.map (·.1)).idxOf a < (registrations.map (·.1)).idxOf b
  /-- A name has the rows of its last registration, and one that was not registered has none. -/
  get?_eq : ∀ name, store.get? name = (registrations.reverse.find? (·.1 == name)).map (·.2)
  size_eq : store.size = store.names.length
  /-- Every name is listed with the number of its rows. -/
  tables_eq : store.tables.map (fun table => (table.name, some table.rows)) =
    store.names.map fun name => (name, (store.get? name).map List.length)
  /-- The query that is a name shows the rows of the table, as many as are listed. -/
  execute_name : ∀ name ∈ store.names, IsQueryName name → ∀ elapsed,
    ∃ rows, store.get? name = some rows ∧
      Query.execute store name elapsed = .ofRows rows elapsed ∧
      ⟨name, (Query.execute store name elapsed).rowCount⟩ ∈ store.tables

theorem map_tables_of_distinct {store : Store} (h : store.Distinct) :
    store.tables.map (fun table => (table.name, some table.rows)) =
      store.names.map fun name => (name, (store.get? name).map List.length) := by
  rw [tables, OrderedMap.names, List.map_map, List.map_map]
  refine List.map_congr_left fun table htable => ?_
  have hget : store.get? table.1 = some table.2 := h.get?_eq_some_iff.mpr htable
  show (table.1, some table.2.length) = (table.1, (store.get? table.1).map List.length)
  rw [hget]
  rfl

theorem exists_get?_of_mem_names {store : Store} {name : String} (h : name ∈ store.names) :
    ∃ rows, store.get? name = some rows := by
  rw [← Option.ne_none_iff_exists']
  exact fun hnone => OrderedMap.get?_eq_none_iff.mp hnone h

/-- The tables of a store are what was registered. -/
theorem registers_ofPairs (registrations : List (String × List Record)) :
    Registers registrations (.ofPairs registrations) where
  mem_names _ := OrderedMap.mem_names_ofPairs
  nodup_names := OrderedMap.distinct_ofPairs registrations
  names_in_order := OrderedMap.pairwise_names_ofPairs registrations
  get?_eq := OrderedMap.get?_ofPairs registrations
  size_eq := (List.length_map _).symm
  tables_eq := map_tables_of_distinct (OrderedMap.distinct_ofPairs registrations)
  execute_name := by
    intro name hname hquery elapsed
    obtain ⟨rows, hrows⟩ := exists_get?_of_mem_names hname
    have hanswer := Query.execute_name hquery hrows elapsed
    refine ⟨rows, hrows, hanswer, ?_⟩
    rw [hanswer]
    exact List.mem_map.mpr ⟨(name, rows), OrderedMap.mem_entries_of_get? hrows, rfl⟩

/-- Registrations of two tables, the first of which is registered again. -/
def sampleRegistrations : List (String × List Record) :=
  [("Sign-ins // 2024", [⟨[("user", .null)]⟩]), ("Events", []), ("Sign-ins // 2024", [⟨[]⟩, ⟨[]⟩])]

theorem execute_sampleRegistrations :
    "Sign-ins // 2024" ∈ (OrderedMap.ofPairs sampleRegistrations).names ∧
      IsQueryName "Sign-ins // 2024" ∧
      Query.execute (.ofPairs sampleRegistrations) "Sign-ins // 2024" 2 =
        .ofRows [⟨[]⟩, ⟨[]⟩] 2 := by
  have hname : "Sign-ins // 2024" ∈ (OrderedMap.ofPairs sampleRegistrations).names := by decide
  have hquery : IsQueryName "Sign-ins // 2024" := by decide
  obtain ⟨rows, hrows, hanswer, -⟩ :=
    (registers_ofPairs sampleRegistrations).execute_name _ hname hquery 2
  obtain rfl : [⟨[]⟩, ⟨[]⟩] = rows := Option.some_inj.mp hrows
  exact ⟨hname, hquery, hanswer⟩

end Store

end LogQuery
