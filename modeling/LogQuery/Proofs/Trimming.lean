import LogQuery.Text.Blank
import Mathlib.Data.List.TakeWhile

/-!
# Trimming

What trimming takes away from a text: blank characters at its ends and nothing else
(`exists_pad_trim`, `trim_pad`, `trim_eq_self`). A trimmed text starts with the first character that
is not blank (`head?_trim`).
-/

namespace LogQuery.Text

variable {pad pad' : List Char}

/-! ## At the start -/

theorem trimStart_append (h : ∀ c ∈ pad, isBlank c = true) (s : List Char) :
    trimStart (pad ++ s) = trimStart s := List.dropWhile_append_of_pos h

theorem trimStart_cons {c : Char} (h : isBlank c = false) (s : List Char) :
    trimStart (c :: s) = c :: s :=
  List.dropWhile_cons_of_neg (by simp [h])

theorem trimStart_eq_self {s : List Char} (h : ∀ c ∈ s.head?, isBlank c = false) :
    trimStart s = s := by
  cases s with
  | nil => rfl
  | cons c s => exact trimStart_cons (h c rfl) s

theorem isBlank_of_mem_head?_trimStart {s : List Char} :
    ∀ c ∈ (trimStart s).head?, isBlank c = false := by
  intro c hc
  have hfirst := List.head?_dropWhile_not isBlank s
  rw [← trimStart, Option.mem_def.mp hc] at hfirst
  exact hfirst

/-! ## At the end -/

theorem trimEnd_append (h : ∀ c ∈ pad, isBlank c = true) (s : List Char) :
    trimEnd (s ++ pad) = trimEnd s := by
  rw [trimEnd, trimEnd, List.reverse_append, List.dropWhile_append_of_pos (by simpa using h)]

/-- Trimming at the end does not reach over a character that is not blank. -/
theorem trimEnd_cons {c : Char} (h : isBlank c = false) (s : List Char) :
    trimEnd (c :: s) = c :: trimEnd s := by
  rw [trimEnd, trimEnd, List.reverse_cons, List.dropWhile_append,
    List.dropWhile_cons_of_neg (by simp [h])]
  split
  · rename_i hempty
    rw [List.isEmpty_iff.mp hempty]
    rfl
  · rw [List.reverse_append]
    rfl

/-- What is not blank shields what stands before it. -/
theorem trimEnd_append_of_not_blank {s : List Char} (h : ∀ c ∈ s, isBlank c = false)
    (t : List Char) : trimEnd (s ++ t) = s ++ trimEnd t := by
  induction s with
  | nil => rfl
  | cons c s ih =>
    rw [List.forall_mem_cons] at h
    rw [List.cons_append, trimEnd_cons h.1, ih h.2, List.cons_append]

/-- Nor does it reach over a text that it leaves something of. -/
theorem trimEnd_append_of_ne_nil {t : List Char} (h : trimEnd t ≠ []) (s : List Char) :
    trimEnd (s ++ t) = s ++ trimEnd t := by
  have hrest : (t.reverse.dropWhile isBlank).isEmpty = false := by
    rw [List.isEmpty_eq_false_iff]
    exact mt List.reverse_eq_nil_iff.mpr h
  rw [trimEnd, trimEnd, List.reverse_append, List.dropWhile_append, hrest, if_neg (by simp),
    List.reverse_append, List.reverse_reverse]

/-- Only blank characters leave nothing. -/
theorem isBlank_of_trimEnd_eq_nil {s : List Char} (h : trimEnd s = []) :
    ∀ c ∈ s, isBlank c = true := by
  have hall := List.dropWhile_eq_nil_iff.mp (List.reverse_eq_nil_iff.mp h)
  exact fun c hc => hall c (List.mem_reverse.mpr hc)

/-- A text is what trimming at the end leaves of it before blank characters. -/
theorem exists_pad_trimEnd (s : List Char) :
    ∃ pad, (∀ c ∈ pad, isBlank c = true) ∧ s = trimEnd s ++ pad := by
  refine ⟨(s.reverse.takeWhile isBlank).reverse, fun c hc => ?_, ?_⟩
  · exact List.mem_takeWhile_imp (List.mem_reverse.mp hc)
  · rw [trimEnd, ← List.reverse_append, List.takeWhile_append_dropWhile, List.reverse_reverse]

theorem trimEnd_isPrefix (s : List Char) : trimEnd s <+: s := by
  obtain ⟨pad, -, hs⟩ := exists_pad_trimEnd s
  exact ⟨pad, hs.symm⟩

/-! ## At both ends -/

theorem trim_append_left (h : ∀ c ∈ pad, isBlank c = true) (s : List Char) :
    trim (pad ++ s) = trim s := by
  rw [trim, trim, trimStart_append h]

theorem trim_append_right (h : ∀ c ∈ pad, isBlank c = true) (s : List Char) :
    trim (s ++ pad) = trim s := by
  by_cases hs : ∀ c ∈ s, isBlank c = true
  · have hall : trimStart (s ++ pad) = [] := by
      rw [trimStart_append hs, trimStart, List.dropWhile_eq_nil_iff]
      exact h
    have hself : trimStart s = [] := List.dropWhile_eq_nil_iff.mpr hs
    rw [trim, trim, hall, hself]
  · have hstart : trimStart (s ++ pad) = trimStart s ++ pad := by
      rw [trimStart, trimStart, List.dropWhile_append, if_neg]
      simpa using hs
    rw [trim, trim, hstart, trimEnd_append h]

theorem trim_pad (h : ∀ c ∈ pad, isBlank c = true) (h' : ∀ c ∈ pad', isBlank c = true)
    (s : List Char) : trim (pad ++ (s ++ pad')) = trim s := by
  rw [trim_append_left h, trim_append_right h']

/-- A text is its trimmed form between blank characters. -/
theorem exists_pad_trim (s : List Char) :
    ∃ pad pad', (∀ c ∈ pad, isBlank c = true) ∧ (∀ c ∈ pad', isBlank c = true) ∧
      s = pad ++ (trim s ++ pad') := by
  obtain ⟨pad', hpad', hend⟩ := exists_pad_trimEnd (trimStart s)
  refine ⟨s.takeWhile isBlank, pad', fun c hc => List.mem_takeWhile_imp hc, hpad', ?_⟩
  rw [trim, ← hend, trimStart, List.takeWhile_append_dropWhile]

theorem trim_isInfix (s : List Char) : trim s <:+: s := by
  obtain ⟨pad, pad', -, -, hs⟩ := exists_pad_trim s
  refine ⟨pad, pad', ?_⟩
  rw [List.append_assoc]
  exact hs.symm

theorem trim_trim (s : List Char) : trim (trim s) = trim s := by
  obtain ⟨pad, pad', hpad, hpad', hs⟩ := exists_pad_trim s
  have htrim := congrArg trim hs
  rw [trim_pad hpad hpad'] at htrim
  exact htrim.symm

theorem trim_trimEnd (s : List Char) : trim (trimEnd s) = trim s := by
  obtain ⟨pad, hpad, hs⟩ := exists_pad_trimEnd s
  have htrim := congrArg trim hs
  rw [trim_append_right hpad] at htrim
  exact htrim.symm

/-- A text that neither starts nor ends with a blank character is not changed by trimming. -/
theorem trim_eq_self {s : List Char} (hfirst : ∀ c ∈ s.head?, isBlank c = false)
    (hlast : ∀ c ∈ s.getLast?, isBlank c = false) : trim s = s := by
  rw [trim, trimStart_eq_self hfirst, trimEnd]
  cases hs : s.reverse with
  | nil =>
    rw [List.reverse_eq_nil_iff.mp hs]
    rfl
  | cons c t =>
    have hc : isBlank c = false := hlast c (by simp [← List.head?_reverse, hs])
    rw [List.dropWhile_cons_of_neg (by simp [hc]), ← hs, List.reverse_reverse]

/-- A trimmed text starts with the first of its characters that is not blank. -/
theorem head?_trim (s : List Char) : (trim s).head? = (trimStart s).head? := by
  rw [trim]
  cases hstart : trimStart s with
  | nil => rfl
  | cons c rest =>
    have hc : isBlank c = false := isBlank_of_mem_head?_trimStart c (by rw [hstart]; rfl)
    rw [trimEnd_cons hc]
    rfl

/-! ## Blank texts -/

theorem allBlank_append (s t : List Char) : allBlank (s ++ t) = (allBlank s && allBlank t) :=
  List.all_append

/-- A text that shows something still does when it is trimmed. -/
theorem trim_ne_nil {s : List Char} (h : allBlank s = false) : trim s ≠ [] := by
  intro hnil
  obtain ⟨pad, pad', hpad, hpad', hs⟩ := exists_pad_trim s
  rw [hnil, List.nil_append] at hs
  have hblank : allBlank s = true := by
    rw [hs, allBlank_append, allBlank, allBlank, List.all_eq_true.mpr hpad,
      List.all_eq_true.mpr hpad', Bool.and_true]
  exact Bool.false_ne_true (h.symm.trans hblank)

theorem trimEnd_eq_nil {s : List Char} (h : allBlank s = true) : trimEnd s = [] := by
  rw [trimEnd, List.reverse_eq_nil_iff, List.dropWhile_eq_nil_iff]
  exact fun c hc => List.all_eq_true.mp h c (List.mem_reverse.mp hc)

theorem allBlank_trimEnd (s : List Char) : allBlank (trimEnd s) = allBlank s := by
  obtain ⟨pad, hpad, hs⟩ := exists_pad_trimEnd s
  have hblank : allBlank pad = true := List.all_eq_true.mpr hpad
  have hall := congrArg allBlank hs
  rw [allBlank_append, hblank, Bool.and_true] at hall
  exact hall.symm

end LogQuery.Text
