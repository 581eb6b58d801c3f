import LogQuery.Proofs.Trimming
import LogQuery.Shell.History
import Mathlib.Data.List.Destutter
import Mathlib.Data.List.DropRight

/-!
# Histories as logs

A history is the end of a log: of all queries that were ever entered it holds the latest ones.
Entering one more keeps it so (`add_ofLog`), although the history sees of the log only what it
still holds, as that is enough to tell whether a query is a repetition.

The log is what is left of the texts that are entered when blank ones are left out and every run of
equal ones is taken as one (`foldl_enter`). So are the entries of a history that is empty at first,
up to its limit (`entries_foldl_add`).
-/

namespace LogQuery.Shell

open Text

/-! ## Latest members -/

variable {α : Type} {limit : Nat} {entries : List α}

theorem length_latest_le (limit : Nat) (entries : List α) :
    (latest limit entries).length ≤ limit := by
  rw [latest, List.length_drop]
  omega

theorem latest_eq_self (h : entries.length ≤ limit) : latest limit entries = entries := by
  rw [latest, Nat.sub_eq_zero_of_le h, List.drop_zero]

theorem latest_latest (limit : Nat) (entries : List α) :
    latest limit (latest limit entries) = latest limit entries :=
  latest_eq_self (length_latest_le limit entries)

/-- The last entry is among the latest, unless none is kept. -/
theorem getLast?_latest (h : 0 < limit) (entries : List α) :
    (latest limit entries).getLast? = entries.getLast? := by
  rw [latest, List.getLast?_drop]
  split
  · rename_i hle
    have hnil : entries = [] := List.eq_nil_of_length_eq_zero (by omega)
    rw [hnil, List.getLast?_nil]
  · rfl

theorem latest_zero (entries : List α) : latest 0 entries = [] := by
  rw [latest, Nat.sub_zero, List.drop_length]

/-- To add a member to the latest ones is enough. -/
theorem latest_latest_append_singleton (limit : Nat) (entries : List α) (entry : α) :
    latest limit (latest limit entries ++ [entry]) = latest limit (entries ++ [entry]) := by
  have hle : entries.length - limit ≤ entries.length := Nat.sub_le _ _
  rw [latest, latest, latest, ← List.drop_append_of_le_length hle, List.drop_drop]
  congr 1
  simp only [List.length_drop, List.length_append, List.length_singleton]
  omega

/-- Of one member too many the earliest one is forgotten. -/
theorem latest_of_length_le (h : entries.length ≤ limit + 1) :
    latest limit entries = if limit < entries.length then entries.drop 1 else entries := by
  split
  · have hone : entries.length - limit = 1 := by omega
    rw [latest, hone]
  · exact latest_eq_self (by omega)

/-! ## Runs of equal members -/

section

variable [DecidableEq α]

/-- One more entry is dropped when it repeats the last one. -/
theorem destutter'_append_singleton (a b : α) (l : List α) :
    (l ++ [b]).destutter' (· ≠ ·) a =
      if (l.destutter' (· ≠ ·) a).getLast? = some b then l.destutter' (· ≠ ·) a
      else l.destutter' (· ≠ ·) a ++ [b] := by
  induction l generalizing a with
  | nil => by_cases h : a = b <;> simp [h]
  | cons c l ih =>
    by_cases h : a = c
    · have hne : ¬ a ≠ c := not_not.mpr h
      rw [List.cons_append, List.destutter'_cons_neg _ hne, List.destutter'_cons_neg _ hne, ih]
    · have hlast : (a :: l.destutter' (· ≠ ·) c).getLast? = (l.destutter' (· ≠ ·) c).getLast? :=
        List.getLast?_cons_of_ne_nil (List.destutter'_ne_nil l (· ≠ ·))
      rw [List.cons_append, List.destutter'_cons_pos _ h, List.destutter'_cons_pos _ h, ih, hlast,
        apply_ite (a :: ·), List.cons_append]

/-- One member more makes a run of its own unless it is equal to the last one. -/
theorem destutter_append_singleton (l : List α) (b : α) :
    (l ++ [b]).destutter (· ≠ ·) =
      if (l.destutter (· ≠ ·)).getLast? = some b then l.destutter (· ≠ ·)
      else l.destutter (· ≠ ·) ++ [b] := by
  cases l with
  | nil => rfl
  | cons a l => exact destutter'_append_singleton a b l

end

namespace History

/-! ## Logs -/

/-- A log in which a query is entered: without the blank characters around it, and not when it
repeats the latest entry. -/
def enter (log : List String) (query : String) : List String :=
  let entry := String.ofList (trim query.toList)
  if log.getLast? = some entry then log else log ++ [entry]

/-- The history that holds the latest entries of a log. -/
def ofLog (limit : Nat) (log : List String) : History where
  limit := limit
  entries := latest limit log

variable {limit : Nat} {log queries : List String} {query : String}

/-- A history of a log becomes the history of the log with one more query. -/
theorem add_ofLog (hquery : trim query.toList ≠ []) :
    (ofLog limit log).add query = ofLog limit (enter log query) := by
  have hentry : String.ofList (trim query.toList) ≠ "" := by
    rw [Ne, ← String.toList_eq_nil_iff, String.toList_ofList]
    exact hquery
  rcases Nat.eq_zero_or_pos limit with rfl | hlimit
  · -- nothing is held, so nothing is a repetition, and what is entered is forgotten at once
    have hnone : ∀ log : List String, ofLog 0 log = { limit := 0, entries := [] } := by
      intro log
      rw [ofLog, latest_zero]
    rw [hnone, hnone, History.add, if_neg (by simp [hentry])]
    rfl
  · have hrepeats : (ofLog limit log).entries.getLast? = log.getLast? :=
      getLast?_latest hlimit log
    rw [History.add, hrepeats, enter]
    dsimp only
    by_cases hlast : log.getLast? = some (String.ofList (trim query.toList))
    · rw [if_pos hlast, if_pos (.inr hlast)]
    · have hlength :
          (latest limit log ++ [String.ofList (trim query.toList)]).length ≤ limit + 1 := by
        rw [List.length_append, List.length_singleton]
        exact Nat.succ_le_succ (length_latest_le limit log)
      -- one entry more than the limit is all that there can be, and the first one then goes
      rw [if_neg hlast, if_neg (not_or.mpr ⟨hentry, hlast⟩), ofLog, ofLog,
        ← latest_latest_append_singleton, latest_of_length_le hlength]

/-- So it does with any number of queries more. -/
theorem foldl_add_ofLog (hqueries : ∀ query ∈ queries, trim query.toList ≠ []) :
    queries.foldl History.add (ofLog limit log) = ofLog limit (queries.foldl enter log) := by
  induction queries generalizing log with
  | nil => rfl
  | cons query rest ih =>
    rw [List.forall_mem_cons] at hqueries
    rw [List.foldl_cons, List.foldl_cons, add_ofLog hqueries.1, ih hqueries.2]

/-! ## Any texts -/

theorem add_of_blank {history : History} (h : trim query.toList = []) :
    history.add query = history := by
  rw [History.add, h]
  exact if_pos (.inl rfl)

/-- Blank texts are not entered. -/
theorem foldl_add_eq_foldl_filter (history : History) (texts : List String) :
    texts.foldl History.add history =
      (texts.filter fun text => trim text.toList ≠ []).foldl History.add history := by
  rw [List.foldl_filter]
  congr 1
  funext history text
  by_cases h : trim text.toList = []
  · rw [if_neg (by simpa using h), add_of_blank h]
  · rw [if_pos (by simpa using h)]

/-- The log of queries is the queries themselves, trimmed, with every run of equal ones as one. -/
theorem foldl_enter (queries : List String) :
    queries.foldl enter [] =
      (queries.map fun query => String.ofList (trim query.toList)).destutter (· ≠ ·) := by
  induction queries using List.reverseRecOn with
  | nil => rfl
  | append_singleton queries query ih =>
    rw [List.foldl_append, ih, List.foldl_cons, List.foldl_nil, List.map_append, List.map_singleton,
      destutter_append_singleton, enter]

/-- When texts are added one after the other to a history that is empty at first, its entries are
the last ones of the texts as they are when each is trimmed, the empty ones are dropped, and every
run of equal ones is taken as one: as many of them as its limit says. -/
theorem entries_foldl_add (limit : Nat) (texts : List String) :
    (texts.foldl History.add { limit }).entries =
      (((texts.map fun text => String.ofList (trim text.toList)).filter (· ≠ "")).destutter
        (· ≠ ·)).rtake limit := by
  have hempty : ({ limit } : History) = ofLog limit [] := by
    rw [ofLog, latest_eq_self (Nat.zero_le _)]
  have hshown : ∀ text : String,
      trim text.toList ≠ [] ↔ String.ofList (trim text.toList) ≠ "" := by
    intro text
    rw [Ne, Ne, ← String.toList_eq_nil_iff, String.toList_ofList]
  have hqueries : ∀ query ∈ texts.filter fun text => trim text.toList ≠ [],
      trim query.toList ≠ [] := by
    intro query hquery
    exact of_decide_eq_true (List.mem_filter.mp hquery).2
  rw [foldl_add_eq_foldl_filter, hempty, foldl_add_ofLog hqueries, foldl_enter, List.filter_map]
  simp only [hshown]
  rfl

example : (["T", "U", " U\t", "", "U", "T", "V"].foldl History.add { limit := 2 }).entries =
    ["T", "V"] := by decide +kernel

end History

end LogQuery.Shell
