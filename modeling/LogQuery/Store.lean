import LogQuery.Value

/-!
# Table stores

A store holds the rows of named tables. Its tables are listed in the order in which they were first
registered; registering a table again replaces its rows and leaves it where it is.
-/

namespace LogQuery

/-- The tables of a session: an ordered map from names to rows. -/
abbrev Store := OrderedMap (List Record)

/-- A table as it is listed. -/
structure TableInfo where
  name : String
  rows : Nat

/-- The tables of a store with the number of their rows. -/
def Store.tables (store : Store) : List TableInfo :=
  store.entries.map fun (name, rows) => ⟨name, rows.length⟩

end LogQuery
