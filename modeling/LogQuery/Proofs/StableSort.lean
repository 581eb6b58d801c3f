import Mathlib.Data.List.Sort
import Mathlib.Data.List.Lex

/-!
# Stable sorting by a key

A list sorted by a key is determined by two facts: the keys ascend, and for every key the elements
that have it are those of the given list in the given order (`eq_sortedBy`). From this it follows
how stable sorting goes together with filtering, with mapping, with a second sort by another key,
and with cutting a list into elements of small and of large keys.
-/

namespace LogQuery

variable {α β κ κ' : Type} [LinearOrder κ] [LinearOrder κ']

/-- Whether the key of one element is at most that of another. -/
def keyLe (key : α → κ) (a b : α) : Bool := key a ≤ key b

/-- The list sorted by a key; elements with the same key keep their order. -/
def sortedBy (key : α → κ) (l : List α) : List α := l.mergeSort (keyLe key)

theorem keyLe_iff {key : α → κ} {a b : α} : keyLe key a b = true ↔ key a ≤ key b := by
  simp [keyLe]

theorem keyLe_trans (key : α → κ) (a b c : α) (hab : keyLe key a b = true)
    (hbc : keyLe key b c = true) : keyLe key a c = true := by
  rw [keyLe_iff] at hab hbc ⊢
  exact hab.trans hbc

theorem keyLe_total (key : α → κ) (a b : α) : (keyLe key a b || keyLe key b a) = true := by
  rw [Bool.or_eq_true, keyLe_iff, keyLe_iff]
  exact le_total _ _

/-! ## What determines a sorted list -/

theorem pairwise_sortedBy (key : α → κ) (l : List α) :
    (sortedBy key l).Pairwise fun a b => key a ≤ key b :=
  (List.pairwise_mergeSort (keyLe_trans key) (keyLe_total key) l).imp keyLe_iff.mp

theorem perm_sortedBy (key : α → κ) (l : List α) : (sortedBy key l).Perm l :=
  List.mergeSort_perm _ _

@[simp]
theorem mem_sortedBy {key : α → κ} {l : List α} {a : α} : a ∈ sortedBy key l ↔ a ∈ l :=
  (perm_sortedBy key l).mem_iff

/-- Different keys are in strict order. -/
theorem pairwise_lt_sortedBy {key : α → κ} {l : List α} (h : (l.map key).Nodup) :
    (sortedBy key l).Pairwise fun a b => key a < key b := by
  have hne : ((sortedBy key l).map key).Nodup := ((perm_sortedBy key l).map key).nodup_iff.mpr h
  refine (pairwise_sortedBy key l).imp₂ ?_ (List.pairwise_map.mp hne)
  intro a b hle hab
  exact lt_of_le_of_ne hle hab

theorem sortedBy_of_pairwise {key : α → κ} {l : List α}
    (h : l.Pairwise fun a b => key a ≤ key b) : sortedBy key l = l :=
  List.mergeSort_of_pairwise (h.imp keyLe_iff.mpr)

theorem sortedBy_self (key : α → κ) (l : List α) :
    sortedBy key (sortedBy key l) = sortedBy key l :=
  sortedBy_of_pairwise (pairwise_sortedBy key l)

/-- Elements with the same key keep their order. -/
theorem sortedBy_of_forall_eq {key : α → κ} {l : List α}
    (h : ∀ a ∈ l, ∀ b ∈ l, key a = key b) : sortedBy key l = l :=
  sortedBy_of_pairwise (List.pairwise_of_forall_mem_list fun a ha b hb => (h a ha b hb).le)

/-- The elements of one key keep their order. -/
theorem filter_key_sortedBy (key : α → κ) (l : List α) (k : κ) :
    (sortedBy key l).filter (key · = k) = l.filter (key · = k) := by
  have hclass : (l.filter (key · = k)).Pairwise fun a b => keyLe key a b = true := by
    rw [List.pairwise_filter]
    refine List.pairwise_of_forall fun a b ha hb => ?_
    rw [decide_eq_true_eq] at ha hb
    rw [keyLe_iff, ha, hb]
  have hsub : (l.filter (key · = k)).Sublist (sortedBy key l) :=
    List.sublist_mergeSort (keyLe_trans key) (keyLe_total key) hclass List.filter_sublist
  have hsub' := hsub.filter (key · = k)
  rw [List.filter_filter] at hsub'
  simp only [Bool.and_self] at hsub'
  exact (hsub'.eq_of_length ((perm_sortedBy key l).filter _).length_eq.symm).symm

/-- Two lists with ascending keys are equal when they have the same elements of each key in the same
order. -/
theorem eq_of_filter_key_eq (key : α → κ) {l₁ l₂ : List α}
    (h₁ : l₁.Pairwise fun a b => key a ≤ key b) (h₂ : l₂.Pairwise fun a b => key a ≤ key b)
    (h : ∀ k, l₁.filter (key · = k) = l₂.filter (key · = k)) : l₁ = l₂ := by
  induction l₁ generalizing l₂ with
  | nil =>
    cases l₂ with
    | nil => rfl
    | cons b t₂ => simpa using h (key b)
  | cons a t₁ ih =>
    cases l₂ with
    | nil => simpa using h (key a)
    | cons b t₂ =>
      have hmem : ∀ x, x ∈ a :: t₁ ↔ x ∈ b :: t₂ := by
        intro x
        have hx : x ∈ (a :: t₁).filter (key · = key x) ↔ x ∈ (b :: t₂).filter (key · = key x) := by
          rw [h (key x)]
        simpa using hx
      -- each head is the least of both lists, so the heads have the same key
      have hab : key a = key b := by
        refine le_antisymm ?_ ?_
        · rcases List.mem_cons.mp ((hmem b).mpr List.mem_cons_self) with e | hb
          · rw [e]
          · exact List.rel_of_pairwise_cons h₁ hb
        · rcases List.mem_cons.mp ((hmem a).mp List.mem_cons_self) with e | ha
          · rw [e]
          · exact List.rel_of_pairwise_cons h₂ ha
      have hhead := h (key a)
      rw [List.filter_cons_of_pos (by simp), List.filter_cons_of_pos (by simp [hab])] at hhead
      obtain ⟨rfl, -⟩ := List.cons.inj hhead
      refine congrArg _ (ih h₁.of_cons h₂.of_cons fun k => ?_)
      have hk := h k
      by_cases hak : key a = k
      · rw [List.filter_cons_of_pos (by simpa using hak),
          List.filter_cons_of_pos (by simpa using hak)] at hk
        exact (List.cons.inj hk).2
      · rw [List.filter_cons_of_neg (by simpa using hak),
          List.filter_cons_of_neg (by simpa using hak)] at hk
        exact hk

/-- A list is a list sorted by a key when its keys ascend and the elements of each key are those of
the list in the same order. -/
theorem eq_sortedBy {key : α → κ} {l l' : List α} (hl : l'.Pairwise fun a b => key a ≤ key b)
    (h : ∀ k, l'.filter (key · = k) = l.filter (key · = k)) : l' = sortedBy key l :=
  eq_of_filter_key_eq key hl (pairwise_sortedBy key l) fun k => by rw [h, filter_key_sortedBy]

/-! ## Sorting together with other operations -/

/-- Elements can be dropped before or after they are sorted. -/
theorem filter_sortedBy (key : α → κ) (p : α → Bool) (l : List α) :
    (sortedBy key l).filter p = sortedBy key (l.filter p) := by
  refine eq_sortedBy ((pairwise_sortedBy key l).filter p) fun k => ?_
  rw [List.filter_comm, filter_key_sortedBy, List.filter_comm]

/-- Only the order of the keys matters. -/
theorem sortedBy_congr {key : α → κ} {key' : α → κ'} {l : List α}
    (h : ∀ a ∈ l, ∀ b ∈ l, (key a ≤ key b ↔ key' a ≤ key' b)) :
    sortedBy key l = sortedBy key' l := by
  have hmap := List.map_mergeSort (r := keyLe key) (s := keyLe key') (f := id) (l := l)
    fun a ha b hb => by
      rw [Bool.eq_iff_iff, keyLe_iff, keyLe_iff]
      exact h a ha b hb
  simpa [sortedBy] using hmap

/-- Elements can be replaced before or after, if that leaves their keys. -/
theorem map_sortedBy (key : β → κ) (f : α → β) (l : List α) :
    (sortedBy (fun a => key (f a)) l).map f = sortedBy key (l.map f) :=
  List.map_mergeSort fun _ _ _ _ => rfl

/-- Sorting by a first key and then by a second one is sorting by a key that compares the second
first and, where that is the same, the first. -/
theorem sortedBy_sortedBy {key₁ : α → κ} {key₂ : α → κ} {key : α → κ'} {l : List α}
    (h : ∀ a ∈ l, ∀ b ∈ l, (key a ≤ key b ↔ key₂ a < key₂ b ∨ key₂ a = key₂ b ∧ key₁ a ≤ key₁ b)) :
    sortedBy key₂ (sortedBy key₁ l) = sortedBy key l := by
  refine eq_sortedBy (List.pairwise_iff_forall_sublist.mpr fun {a b} hab => ?_) fun k => ?_
  · have hmem : a ∈ l ∧ b ∈ l := by
      have := hab.subset
      simpa using this
    rw [h a hmem.1 b hmem.2]
    rcases (List.pairwise_iff_forall_sublist.mp (pairwise_sortedBy key₂ _) hab).lt_or_eq with
      hlt | heq
    · exact Or.inl hlt
    · -- within a class of the second key the order is that of the first sort
      have hclass := hab.filter (key₂ · = key₂ b)
      rw [List.filter_eq_self.mpr (by simp [heq]), filter_key_sortedBy] at hclass
      have hfirst := hclass.trans List.filter_sublist
      exact Or.inr ⟨heq, List.pairwise_iff_forall_sublist.mp (pairwise_sortedBy key₁ l) hfirst⟩
  · have hsame : ∀ a ∈ l.filter (key · = k), ∀ b ∈ l.filter (key · = k),
        key₁ a = key₁ b ∧ key₂ a = key₂ b := by
      intro a ha b hb
      simp only [List.mem_filter, decide_eq_true_eq] at ha hb
      have hle := (h a ha.1 b hb.1).mp (by rw [ha.2, hb.2])
      have hge := (h b hb.1 a ha.1).mp (by rw [ha.2, hb.2])
      rcases hle with hlt | ⟨e, hle⟩
      · rcases hge with hgt | ⟨e, -⟩
        · exact absurd hlt hgt.not_gt
        · exact absurd e hlt.ne'
      · rcases hge with hgt | ⟨-, hge⟩
        · exact absurd e hgt.ne'
        · exact ⟨le_antisymm hle hge, e⟩
    have h₁ : sortedBy key₁ (l.filter (key · = k)) = l.filter (key · = k) :=
      sortedBy_of_forall_eq fun a ha b hb => (hsame a ha b hb).1
    have h₂ : sortedBy key₂ (l.filter (key · = k)) = l.filter (key · = k) :=
      sortedBy_of_forall_eq fun a ha b hb => (hsame a ha b hb).2
    rw [filter_sortedBy, filter_sortedBy, h₁, h₂]

/-- When the elements with a property have smaller keys than those without it, they can be sorted
apart. -/
theorem sortedBy_filter_append {key : α → κ} (p : α → Bool) {l : List α}
    (h : ∀ a ∈ l, ∀ b ∈ l, p a = true → p b = false → key a < key b) :
    sortedBy key (l.filter p) ++ sortedBy key (l.filter (!p ·)) = sortedBy key l := by
  refine eq_sortedBy (List.pairwise_append.mpr
    ⟨pairwise_sortedBy _ _, pairwise_sortedBy _ _, fun a ha b hb => ?_⟩) fun k => ?_
  · simp only [mem_sortedBy, List.mem_filter, Bool.not_eq_true'] at ha hb
    exact (h a ha.1 b hb.1 ha.2 hb.2).le
  · rw [List.filter_append, filter_key_sortedBy, filter_key_sortedBy]
    -- one key has elements of at most one of the two kinds
    by_cases hk : ∃ a ∈ l, key a = k ∧ p a = true
    · obtain ⟨a, ha, rfl, hpa⟩ := hk
      have hall : ∀ b ∈ l, key b = key a → p b = true := by
        intro b hb hba
        by_contra hpb
        exact absurd hba (h a ha b hb hpa (by simpa using hpb)).ne'
      rw [List.filter_filter, List.filter_filter]
      have hnone : l.filter (fun b => decide (key b = key a) && !p b) = [] := by
        refine List.filter_eq_nil_iff.mpr fun b hb => ?_
        simpa using hall b hb
      rw [hnone, List.append_nil]
      refine List.filter_congr fun b hb => ?_
      by_cases hba : key b = key a
      · simp [hba, hall b hb hba]
      · simp [hba]
    · rw [List.filter_filter, List.filter_filter]
      have hnone : l.filter (fun b => decide (key b = k) && p b) = [] := by
        refine List.filter_eq_nil_iff.mpr fun b hb => ?_
        simpa using fun hbk => by simpa using fun hpb => hk ⟨b, hb, hbk, hpb⟩
      rw [hnone, List.nil_append]
      refine List.filter_congr fun b hb => ?_
      by_cases hbk : key b = k
      · have hpb : p b = false := by
          simpa using fun hpb => hk ⟨b, hb, hbk, hpb⟩
        simp [hbk, hpb]
      · simp [hbk]

end LogQuery
