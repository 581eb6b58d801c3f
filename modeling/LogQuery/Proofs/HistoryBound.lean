import LogQuery.Proofs.HistoryFile
import Mathlib.Data.List.DropRight

/-!
# The limit of a history

A history is used together with the file that keeps it: it is read from the file, queries are
entered into it, and it is written to the file, in any order. Entering a query forgets the earliest
one where there would be one too many, and what was written is read back up to the limit of the
reader (`load_save`). Only a file that breaks off is read without regard to the limit. So the limit
is kept after every operation exactly when such a file, if it is read before it is written over, has
few enough entries before it breaks off (`isBounded_run_iff`).
-/

namespace LogQuery.Shell

open Text

/-! ## Histories with their files -/

/-- A history with the content of its file, which may not exist. -/
structure KeptHistory where
  history : History
  file : Option ByteArray

/-- What is done with a history and its file. -/
inductive HistoryOperation where
  | load
  | add (text : String)
  | save
  deriving DecidableEq

namespace KeptHistory

/-- A history and its file after an operation. -/
def perform (kept : KeptHistory) : HistoryOperation → KeptHistory
  | .load => { kept with history := (kept.history.load kept.file).1 }
  | .add text => { kept with history := kept.history.add text }
  | .save => { kept with file := some kept.history.fileText.toUTF8 }

/-- A history and its file after operations one after the other. -/
def run (kept : KeptHistory) (operations : List HistoryOperation) : KeptHistory :=
  operations.foldl perform kept

/-- A file that can be read only in part has at most so many entries in that part. -/
def Fits (limit : Nat) (file : Option ByteArray) : Prop :=
  ∀ content ∈ file, (decodedLines content).2 = false →
    (History.entriesOfLines (decodedLines content).1).length ≤ limit

/-- Whether a history holds no more entries than its limit allows. -/
def IsBounded (kept : KeptHistory) : Prop :=
  kept.history.entries.length ≤ kept.history.limit

end KeptHistory

/-! ## What an operation does to the bound -/

namespace History

theorem limit_add (history : History) (text : String) :
    (history.add text).limit = history.limit := by
  unfold add
  dsimp only
  split <;> rfl

/-- A history within its limit stays within it when a query is added. -/
theorem length_add_le {history : History} (h : history.entries.length ≤ history.limit)
    (text : String) : (history.add text).entries.length ≤ history.limit := by
  unfold add
  dsimp only
  split
  · exact h
  · -- one entry too many is all that there can be, and the first one then goes
    dsimp only
    split
    · rw [List.length_drop, List.length_append, List.length_singleton]
      omega
    · omega

theorem limit_load (history : History) (file : Option ByteArray) :
    (history.load file).1.limit = history.limit := by
  cases file with
  | none => rfl
  | some content =>
    rw [load, read]
    split <;> rfl

/-- Loading a file keeps to the limit, except when the file ends ill-formed: then all entries before
that count. -/
theorem length_load_some_le_iff {history : History} {content : ByteArray} :
    (history.load (some content)).1.entries.length ≤ history.limit ↔
      ((decodedLines content).2 = false →
        (entriesOfLines (decodedLines content).1).length ≤ history.limit) := by
  rw [load, read]
  rcases hlines : decodedLines content with ⟨lines, _ | _⟩
  · exact ⟨fun h _ => h, fun h => h rfl⟩
  · exact ⟨fun _ h => Bool.noConfusion h, fun _ => length_latest_le _ _⟩

end History

namespace KeptHistory

variable {kept : KeptHistory}

theorem limit_perform (kept : KeptHistory) (operation : HistoryOperation) :
    (kept.perform operation).history.limit = kept.history.limit := by
  cases operation with
  | load => exact History.limit_load _ _
  | add text => exact History.limit_add _ _
  | save => rfl

theorem IsBounded.add (h : kept.IsBounded) (text : String) :
    (kept.perform (.add text)).IsBounded := by
  rw [IsBounded, limit_perform]
  exact History.length_add_le h text

/-- After the history is read its limit is kept exactly when the file fits. -/
theorem isBounded_load_iff (h : kept.IsBounded) :
    (kept.perform .load).IsBounded ↔ Fits kept.history.limit kept.file := by
  rw [IsBounded, limit_perform, perform, Fits]
  cases kept.file with
  | none => exact iff_of_true h (by simp)
  | some content =>
    rw [History.length_load_some_le_iff]
    simp

/-- Of what was saved the last entries are loaded, as many as the limit of the reader, in their
order and with every character. -/
theorem load_save (kept : KeptHistory) (reader : History) :
    reader.load (kept.perform .save).file =
      ({ reader with entries := kept.history.entries.rtake reader.limit }, true) :=
  History.read_fileText kept.history reader.limit

/-- A file that was saved can be read to its end. -/
theorem fits_save (kept : KeptHistory) : Fits kept.history.limit (kept.perform .save).file := by
  intro content hcontent hpart
  obtain rfl := Option.mem_some.mp hcontent
  rw [decodedLines_toUTF8] at hpart
  cases hpart

/-! ## Runs -/

theorem run_cons (kept : KeptHistory) (operation : HistoryOperation)
    (rest : List HistoryOperation) :
    kept.run (operation :: rest) = (kept.perform operation).run rest := rfl

theorem limit_run (kept : KeptHistory) (operations : List HistoryOperation) :
    (kept.run operations).history.limit = kept.history.limit := by
  induction operations generalizing kept with
  | nil => rfl
  | cons operation rest ih => rw [run_cons, ih, limit_perform]

/-- What holds throughout a run holds before it and throughout the rest after its first
operation. -/
theorem forall_prefix_cons_iff {P : KeptHistory → Prop} {operation : HistoryOperation}
    {rest : List HistoryOperation} :
    (∀ done, done <+: operation :: rest → P (kept.run done)) ↔
      P kept ∧ ∀ done, done <+: rest → P ((kept.perform operation).run done) := by
  constructor
  · intro h
    refine ⟨h [] List.nil_prefix, fun done hdone => ?_⟩
    rw [← run_cons]
    exact h _ (List.cons_prefix_cons.mpr ⟨rfl, hdone⟩)
  · rintro ⟨hnow, hlater⟩ done hdone
    cases done with
    | nil => exact hnow
    | cons first done =>
      obtain ⟨rfl, hrest⟩ := List.cons_prefix_cons.mp hdone
      exact hlater done hrest

/-- A history that keeps its limit goes on to do so exactly when its file fits or is not read before
it is written. -/
theorem forall_isBounded_iff (h : kept.IsBounded) (operations : List HistoryOperation) :
    (∀ done, done <+: operations → (kept.run done).IsBounded) ↔
      (.load ∈ operations.takeWhile (· ≠ .save) → Fits kept.history.limit kept.file) := by
  induction operations generalizing kept with
  | nil => simpa [run] using h
  | cons operation rest ih =>
    rw [forall_prefix_cons_iff]
    refine (and_iff_right h).trans ?_
    cases operation with
    | load =>
      -- the file stays as it is, so what it has to fit now serves every later reading too
      constructor
      · intro hbounded _
        exact (isBounded_load_iff h).mp (hbounded [] List.nil_prefix)
      · intro hread
        have hfits := hread (by simp)
        refine (ih ((isBounded_load_iff h).mpr hfits)).mpr fun _ => ?_
        rw [limit_perform]
        exact hfits
    | add text =>
      rw [ih (h.add text), limit_perform]
      simp [perform]
    | save =>
      -- the old file is gone, and the new one is whole
      have hsaved : (kept.perform .save).IsBounded := h
      rw [ih hsaved, limit_perform]
      exact iff_of_true (fun _ => fits_save kept) (by simp)

/-- Through any operations on a history that is empty at first, and on its file, the history has at
most as many entries as its limit says, exactly when the file fits or is not read before the history
is written over it. -/
theorem isBounded_run_iff (limit : Nat) (file : Option ByteArray)
    (operations : List HistoryOperation) :
    (∀ done, done <+: operations →
        (run ⟨{ limit }, file⟩ done).history.entries.length ≤ limit) ↔
      (.load ∈ operations.takeWhile (· ≠ .save) → Fits limit file) := by
  have hstart : IsBounded ⟨{ limit }, file⟩ := Nat.zero_le limit
  rw [← forall_isBounded_iff hstart]
  refine forall_congr' fun done => imp_congr_right fun _ => ?_
  rw [IsBounded, limit_run]

/-- Two queries, and behind them a byte that belongs to no character. -/
def brokenFile : ByteArray := ⟨#[0x61, 0x0A, 0x62, 0x0A, 0xFF]⟩

/-- A file that breaks off behind two entries makes a history of two out of one that is to remember
one. -/
theorem not_isBounded_brokenFile :
    ¬ ∀ done, done <+: [HistoryOperation.load] →
      (run ⟨{ limit := 1 }, some brokenFile⟩ done).history.entries.length ≤ 1 := by
  have hlines : decodedLines brokenFile = ([['a'], ['b']], false) := by decide +kernel
  intro h
  have hload := h [.load] (List.prefix_refl _)
  rw [run, List.foldl_cons, List.foldl_nil, perform, History.load, History.read, hlines] at hload
  exact absurd hload (by decide)

end KeptHistory

end LogQuery.Shell
