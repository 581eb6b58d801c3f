import LogQuery.Condition.Selection
import Mathlib.Data.List.Induction
import Mathlib.Data.List.Nodup

/-!
# First occurrences

`firstByKey` keeps the first element of each key. Its result has every key of the list once
(`mem_map_firstByKey`, `nodup_map_firstByKey`), what has been seen before only takes elements away
(`firstByKey_eq_filter`), and of two lists one after the other the second contributes the keys that
the first lacks (`firstByKey_append`). It keeps what stands at the places where a key is new
(`firstByKey_eq_newByKey`).
-/

namespace LogQuery

variable {α β κ : Type} [BEq κ]

theorem firstByKey_sublist (key : α → κ) (seen : List κ) (l : List α) :
    (firstByKey key seen l).Sublist l := by
  induction l generalizing seen with
  | nil => exact List.Sublist.slnil
  | cons a rest ih =>
    rw [firstByKey]
    split
    · exact (ih seen).cons a
    · exact (ih _).cons_cons a

/-- First occurrences by the key of an image are the first occurrences among the images. -/
theorem map_firstByKey (key : β → κ) (f : α → β) (seen : List κ) (l : List α) :
    (firstByKey (fun a => key (f a)) seen l).map f = firstByKey key seen (l.map f) := by
  induction l generalizing seen with
  | nil => rfl
  | cons a rest ih =>
    simp only [List.map_cons, firstByKey]
    split
    · exact ih seen
    · rw [List.map_cons, ih]

variable [LawfulBEq κ]

/-- Keys that have been seen are left out, and nothing else changes. -/
theorem firstByKey_eq_filter (key : α → κ) (seen : List κ) (l : List α) :
    firstByKey key seen l = (firstByKey key [] l).filter fun a => !seen.contains (key a) := by
  induction l generalizing seen with
  | nil => rfl
  | cons a rest ih =>
    have hrest := ih [key a]
    simp only [firstByKey, List.contains_nil, Bool.false_eq_true, if_false]
    by_cases h : seen.contains (key a) = true
    · rw [if_pos h, ih seen, hrest, List.filter_cons_of_neg (by simp only [h, Bool.not_true,
        Bool.false_eq_true, not_false_eq_true]), List.filter_filter]
      refine List.filter_congr fun b _ => ?_
      by_cases hb : key b = key a
      · simp only [hb, h, Bool.not_true, Bool.false_and]
      · simp [hb]
    · rw [if_neg h, ih (key a :: seen), hrest, List.filter_cons_of_pos (by simpa using h),
        List.filter_filter]
      congr 1
      refine List.filter_congr fun b _ => ?_
      simp [Bool.and_comm]

/-- The keys that come out are those of the list which have not been seen. -/
theorem mem_map_firstByKey {key : α → κ} {seen : List κ} {l : List α} {k : κ} :
    k ∈ (firstByKey key seen l).map key ↔ k ∈ l.map key ∧ k ∉ seen := by
  induction l generalizing seen with
  | nil => simp [firstByKey]
  | cons a rest ih =>
    rw [firstByKey]
    by_cases h : seen.contains (key a) = true
    · rw [if_pos h, ih, List.map_cons, List.mem_cons]
      have hk : k = key a → k ∈ seen := fun e => by simpa [e] using h
      tauto
    · rw [if_neg h, List.map_cons, List.mem_cons, ih, List.map_cons, List.mem_cons, List.mem_cons]
      have hk : k = key a → k ∉ seen := fun e => by simpa [e] using h
      tauto

theorem nodup_map_firstByKey (key : α → κ) (seen : List κ) (l : List α) :
    ((firstByKey key seen l).map key).Nodup := by
  induction l generalizing seen with
  | nil => simp [firstByKey]
  | cons a rest ih =>
    rw [firstByKey]
    split
    · exact ih seen
    · rw [List.map_cons, List.nodup_cons]
      refine ⟨fun hmem => ?_, ih _⟩
      exact (mem_map_firstByKey.mp hmem).2 List.mem_cons_self

/-- Where no key occurs twice, everything is kept. -/
theorem firstByKey_of_nodup {key : α → κ} {l : List α} (h : (l.map key).Nodup) :
    firstByKey key [] l = l := by
  induction l with
  | nil => rfl
  | cons a rest ih =>
    rw [List.map_cons, List.nodup_cons] at h
    simp only [firstByKey, List.contains_nil, Bool.false_eq_true, if_false]
    rw [firstByKey_eq_filter, ih h.2]
    congr 1
    refine List.filter_eq_self.mpr fun b hb => ?_
    have hne : key b ≠ key a := fun e => h.1 (e ▸ List.mem_map_of_mem hb)
    simpa using hne

/-- After a first list a second one contributes the elements whose keys the first lacks. -/
theorem firstByKey_append (key : α → κ) (l₁ l₂ : List α) :
    firstByKey key [] (l₁ ++ l₂) =
      firstByKey key [] l₁ ++
        (firstByKey key [] l₂).filter fun a => !(l₁.map key).contains (key a) := by
  induction l₁ with
  | nil => simp [firstByKey]
  | cons a rest ih =>
    simp only [List.cons_append, firstByKey, List.contains_nil, Bool.false_eq_true, if_false]
    rw [firstByKey_eq_filter key [key a], ih, List.filter_append, firstByKey_eq_filter key [key a],
      List.filter_filter]
    congr 2
    refine List.filter_congr fun b _ => ?_
    simp

/-- Elements can be chosen by their keys before or after the first occurrences are taken. -/
theorem filter_firstByKey {key : α → κ} {p : α → Bool} (hp : ∀ a b, key a = key b → p a = p b)
    (seen : List κ) (l : List α) :
    (firstByKey key seen l).filter p = firstByKey key seen (l.filter p) := by
  induction l generalizing seen with
  | nil => rfl
  | cons a rest ih =>
    rw [firstByKey]
    by_cases ha : p a = true
    · rw [List.filter_cons_of_pos ha, firstByKey]
      split
      · exact ih seen
      · rw [List.filter_cons_of_pos ha, ih]
    · rw [List.filter_cons_of_neg ha]
      split
      · exact ih seen
      · -- the key has been seen now, but no element that is kept has it
        rw [List.filter_cons_of_neg ha, ← ih seen, firstByKey_eq_filter key (key a :: seen),
          firstByKey_eq_filter key seen, List.filter_filter, List.filter_filter]
        refine List.filter_congr fun b _ => ?_
        by_cases hb : key b = key a
        · simp [hp b a hb, ha]
        · simp [hb]

/-! ## Places of first occurrences -/

/-- The elements of a list whose keys no element before them has. -/
def newByKey (key : α → κ) (l : List α) : List α :=
  (l.zipIdx.filter fun place => key place.1 ∉ (l.take place.2).map key).map Prod.fst

/-- One more element is new when its key did not occur before. -/
theorem newByKey_append_singleton (key : α → κ) (l : List α) (a : α) :
    newByKey key (l ++ [a]) = newByKey key l ++ if key a ∈ l.map key then [] else [a] := by
  have hold : ∀ place ∈ l.zipIdx, (l ++ [a]).take place.2 = l.take place.2 := by
    intro place hplace
    have hlt := (List.mem_zipIdx' hplace).1
    exact List.take_append_of_le_length (Nat.le_of_lt hlt)
  unfold newByKey
  rw [List.zipIdx_append, List.filter_append, List.map_append, Nat.zero_add, List.zipIdx_singleton,
    List.filter_singleton]
  congr 1
  · refine congrArg _ (List.filter_congr ?_)
    intro place hplace
    rw [hold place hplace]
  · by_cases ha : key a ∈ l.map key
    · simp [ha]
    · simp [ha]

/-- The elements kept by a set of seen keys are those that are new. -/
theorem firstByKey_eq_newByKey (key : α → κ) (l : List α) :
    firstByKey key [] l = newByKey key l := by
  induction l using List.reverseRecOn with
  | nil => rfl
  | append_singleton l a ih =>
    rw [newByKey_append_singleton, firstByKey_append, ih]
    congr 1
    by_cases ha : key a ∈ l.map key
    · simp [firstByKey, ha]
    · simp [firstByKey, ha]

/-- A key comes out with the first element that has it. -/
theorem filter_key_firstByKey (key : α → κ) (l : List α) (k : κ) :
    (firstByKey key [] l).filter (key · == k) = (l.find? (key · == k)).toList := by
  have hp : ∀ a b, key a = key b → (key a == k) = (key b == k) := by
    intro a b h
    rw [h]
  rw [filter_firstByKey hp, ← List.head?_filter]
  cases hl : l.filter (key · == k) with
  | nil => rfl
  | cons a rest =>
    have hsame : ∀ b ∈ a :: rest, key b = k := by
      intro b hb
      rw [← hl, List.mem_filter] at hb
      exact eq_of_beq hb.2
    rw [List.forall_mem_cons] at hsame
    have hrest : firstByKey key [key a] rest = [] := by
      rw [firstByKey_eq_filter, List.filter_eq_nil_iff]
      intro b hb
      have hkey := hsame.2 b ((firstByKey_sublist key [] rest).subset hb)
      simp [hkey, hsame.1]
    rw [firstByKey, if_neg (by simp), hrest]
    rfl

end LogQuery
