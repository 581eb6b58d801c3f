import LogQuery.Text.Split
import Mathlib.Data.List.Infix
import Mathlib.Data.List.TakeWhile

/-!
# Occurrences of a separator

What it means that a separator occurs in a text that is put together of parts, and which pieces
such a text is cut into. An occurrence cannot reach over a character that the separator lacks
(`infix_append_cons_iff`), and cannot begin in a text without the separator's first character
(`cons_infix_append_iff`). The separators that matter most are words between two marks, such as
` and ` between blanks: in a text that starts with a mark they occur as its first word or later on
(`marked_infix_cons_iff`).

A text is cut at the places where parts without the separator were joined (`pieces_joined`).
-/

namespace LogQuery.Text

variable {α : Type} {sep a b s : List Char}

/-- Whether all characters of a text have a property is decided by looking at the text, not by going
through all characters. -/
instance (priority := 2000) decidableForallMem {p : Char → Prop} [DecidablePred p]
    (s : List Char) : Decidable (∀ c, c ∈ s → p c) := List.decidableBAll p s

/-- Whether a property holds of the character that there may be is decided in the same way. -/
instance (priority := 2000) decidableForallMemOption {p : Char → Prop} [DecidablePred p]
    (o : Option Char) : Decidable (∀ c, c ∈ o → p c) := Option.decidableForallMem o

/-! ## Searching -/

theorem after?_eq_some_iff {start s rest : List Char} :
    after? start s = some rest ↔ s = start ++ rest := by
  induction start generalizing s with
  | nil => rw [after?, Option.some_inj, List.nil_append]
  | cons p ps ih =>
    cases s with
    | nil => simp [after?]
    | cons c cs =>
      rw [after?, List.cons_append, List.cons.injEq]
      by_cases h : p = c
      · rw [if_pos h, ih]
        simp [h]
      · rw [if_neg h]
        simp [Ne.symm h]

@[simp]
theorem after?_append (start rest : List Char) : after? start (start ++ rest) = some rest :=
  after?_eq_some_iff.mpr rfl

theorem isSome_after?_iff {start s : List Char} : (after? start s).isSome = true ↔ start <+: s := by
  rw [Option.isSome_iff_exists]
  constructor
  · rintro ⟨rest, h⟩
    exact ⟨rest, (after?_eq_some_iff.mp h).symm⟩
  · rintro ⟨rest, h⟩
    exact ⟨rest, after?_eq_some_iff.mpr h.symm⟩

/-- A text occurs in another when it is an infix of it. -/
theorem occurs_iff : occurs sep s = true ↔ sep <:+: s := by
  induction s with
  | nil => rw [occurs, List.isEmpty_iff, List.infix_nil]
  | cons c cs ih => rw [occurs, Bool.or_eq_true, isSome_after?_iff, ih, List.infix_cons_iff]

/-! ## Occurrences in texts put together of parts -/

theorem prefix_append_cons_iff {x : Char} (h : x ∉ sep) : sep <+: a ++ x :: b ↔ sep <+: a := by
  constructor
  · intro hpre
    refine List.prefix_of_prefix_length_le hpre (List.prefix_append a _) ?_
    by_contra hlong
    -- otherwise the separator covers the character
    have hcover : a ++ [x] <+: sep :=
      List.prefix_of_prefix_length_le ⟨b, by simp⟩ hpre (by simp; omega)
    exact h (hcover.subset (by simp))
  · intro hpre
    exact hpre.trans (List.prefix_append a _)

/-- An occurrence does not reach over a character that the separator lacks. -/
theorem infix_append_cons_iff {x : Char} (h : x ∉ sep) :
    sep <:+: a ++ x :: b ↔ sep <:+: a ∨ sep <:+: b := by
  induction a with
  | nil =>
    rw [List.nil_append, List.infix_cons_iff, List.infix_nil]
    have hnil := prefix_append_cons_iff (a := []) (b := b) h
    rw [List.nil_append, List.prefix_nil] at hnil
    rw [hnil]
  | cons c a ih =>
    have hpre := prefix_append_cons_iff (a := c :: a) (b := b) h
    rw [List.cons_append] at hpre ⊢
    rw [List.infix_cons_iff, List.infix_cons_iff, hpre, ih, or_assoc]

/-- An occurrence does not begin in a text that lacks the separator's first character. -/
theorem cons_infix_append_iff {m : Char} {w : List Char} (h : m ∉ a) :
    m :: w <:+: a ++ s ↔ m :: w <:+: s := by
  induction a with
  | nil => rfl
  | cons c a ih =>
    rw [List.mem_cons, not_or] at h
    rw [List.cons_append, List.infix_cons_iff, List.cons_prefix_cons, ih h.2]
    simp [h.1]

/-! ## Words between marks -/

/-- A word between two marks. -/
def marked (m : Char) (word : List Char) : List Char := m :: (word ++ [m])

theorem marked_ne_nil (m : Char) (word : List Char) : marked m word ≠ [] := List.cons_ne_nil _ _

theorem dropLast_marked (m : Char) (word : List Char) : (marked m word).dropLast = m :: word := by
  rw [marked, ← List.cons_append, List.dropLast_concat]

theorem prefix_mark_iff {m : Char} {w w' : List Char} (h : m ∉ w) (h' : m ∉ w') :
    w ++ [m] <+: w' ++ m :: s ↔ w = w' := by
  induction w generalizing w' with
  | nil =>
    cases w' with
    | nil => simp
    | cons c w' =>
      rw [List.mem_cons, not_or] at h'
      simp [h'.1]
  | cons c w ih =>
    rw [List.mem_cons, not_or] at h
    cases w' with
    | nil => simp [Ne.symm h.1]
    | cons c' w' =>
      rw [List.mem_cons, not_or] at h'
      rw [List.cons_append, List.cons_append, List.cons_prefix_cons, ih h.2 h'.2, List.cons.injEq]

/-- A word between marks occurs in a text of words if it is the first word or occurs later on. -/
theorem marked_infix_cons_iff {m : Char} {w w' : List Char} (h : m ∉ w) (h' : m ∉ w') :
    marked m w <:+: m :: (w' ++ m :: s) ↔ w = w' ∨ marked m w <:+: m :: s := by
  rw [marked, List.infix_cons_iff, List.cons_prefix_cons, prefix_mark_iff h h',
    cons_infix_append_iff h']
  simp

/-- A word between marks does not occur in a text with one mark only. -/
theorem not_marked_infix_cons {m : Char} {w : List Char} (h : m ∉ s) :
    ¬ marked m w <:+: m :: s := by
  intro hin
  have hcount := hin.sublist.count_le m
  simp [marked, List.count_eq_zero_of_not_mem h] at hcount

theorem not_infix_of_not_infix_cons {c : Char} (h : ¬ sep <:+: c :: s) : ¬ sep <:+: s :=
  fun hin => h (hin.trans (List.suffix_cons c s).isInfix)

theorem not_infix_of_length_lt (h : s.length < sep.length) : ¬ sep <:+: s := fun hin =>
  absurd hin.length_le (by omega)

/-! ## Pieces -/

theorem piecesAfter_append (sep a b : List Char) :
    piecesAfter sep a.length (a ++ b) = piecesAfter sep 0 b := by
  induction a with
  | nil => rfl
  | cons c a ih => rw [List.length_cons, List.cons_append, piecesAfter, ih]

theorem pieces_of_not_infix (h : ¬ sep <:+: s) : pieces sep s = [s] := by
  induction s with
  | nil => rfl
  | cons c s ih =>
    rw [List.infix_cons_iff, not_or, ← isSome_after?_iff] at h
    rw [pieces] at ih ⊢
    rw [piecesAfter, if_neg h.1, ih h.2]
    rfl

/-- The first piece of a text is a start of the text. -/
theorem exists_prefix_pieces_eq_cons (sep s : List Char) :
    ∃ piece rest, piece <+: s ∧ pieces sep s = piece :: rest := by
  induction s with
  | nil => exact ⟨[], [], List.prefix_rfl, rfl⟩
  | cons c s ih =>
    unfold pieces at ih ⊢
    rw [piecesAfter]
    by_cases hstart : (after? sep (c :: s)).isSome = true
    · rw [if_pos hstart]
      exact ⟨[], _, List.nil_prefix, rfl⟩
    · obtain ⟨piece, rest, hprefix, hpieces⟩ := ih
      rw [if_neg hstart, hpieces]
      exact ⟨c :: piece, rest, List.cons_prefix_cons.mpr ⟨rfl, hprefix⟩, rfl⟩

theorem joined_modifyHead (sep : List Char) (c : Char) {parts : List (List Char)}
    (h : parts ≠ []) : joined sep (parts.modifyHead (c :: ·)) = c :: joined sep parts := by
  cases parts with
  | nil => exact absurd rfl h
  | cons part rest => cases rest <;> rfl

theorem piecesAfter_ne_nil (sep : List Char) (skip : Nat) (s : List Char) :
    piecesAfter sep skip s ≠ [] := by
  induction s generalizing skip with
  | nil => cases skip <;> simp [piecesAfter]
  | cons c s ih =>
    cases skip with
    | succ skip => exact ih skip
    | zero =>
      rw [piecesAfter]
      split
      · exact List.cons_ne_nil _ _
      · obtain ⟨piece, rest, hpieces⟩ := List.exists_cons_of_ne_nil (ih 0)
        rw [hpieces]
        exact List.cons_ne_nil _ _

/-- Joined with the separator, the pieces are the text behind what is skipped. -/
theorem joined_piecesAfter (hsep : sep ≠ []) (skip : Nat) (s : List Char) :
    joined sep (piecesAfter sep skip s) = s.drop skip := by
  induction s generalizing skip with
  | nil => cases skip <;> rfl
  | cons c s ih =>
    cases skip with
    | succ skip => exact ih skip
    | zero =>
      rw [piecesAfter, List.drop_zero]
      split
      next hstart =>
        obtain ⟨rest, hs⟩ := isSome_after?_iff.mp hstart
        obtain ⟨d, word, rfl⟩ := List.exists_cons_of_ne_nil hsep
        obtain ⟨piece, pieces, hpieces⟩ :=
          List.exists_cons_of_ne_nil (piecesAfter_ne_nil (d :: word) word.length s)
        have hrest := ih word.length
        rw [List.cons_append, List.cons.injEq] at hs
        obtain ⟨rfl, rfl⟩ := hs
        rw [List.drop_left, hpieces] at hrest
        rw [List.length_cons, Nat.add_sub_cancel, hpieces, joined, hrest, List.nil_append,
          List.cons_append]
        exact List.cons_ne_nil _ _
      next =>
        rw [joined_modifyHead _ _ (piecesAfter_ne_nil _ _ _), ih, List.drop_zero]

/-- The pieces of a text, joined by the separator that was cut out, are the text again. -/
theorem joined_pieces (hsep : sep ≠ []) (s : List Char) : joined sep (pieces sep s) = s :=
  joined_piecesAfter hsep 0 s

theorem isInfix_joined {parts : List (List Char)} {part : List Char} (h : part ∈ parts) :
    part <:+: joined sep parts := by
  induction parts with
  | nil => exact absurd h List.not_mem_nil
  | cons first rest ih =>
    cases rest with
    | nil =>
      rw [List.mem_singleton.mp h]
      exact List.infix_rfl
    | cons next rest =>
      rw [joined]
      · rcases List.mem_cons.mp h with rfl | hrest
        · rw [List.append_assoc]
          exact (List.prefix_append part _).isInfix
        · exact (ih hrest).trans (List.suffix_append _ _).isInfix
      · exact List.cons_ne_nil _ _

theorem isInfix_of_mem_pieces (hsep : sep ≠ []) {piece : List Char} (h : piece ∈ pieces sep s) :
    piece <:+: s := by
  have hin : piece <:+: joined sep (pieces sep s) := isInfix_joined h
  rwa [joined_pieces hsep] at hin

theorem not_infix_of_mem_piecesAfter (hsep : sep ≠ []) {skip : Nat} {piece : List Char}
    (h : piece ∈ piecesAfter sep skip s) : ¬ sep <:+: piece := by
  induction s generalizing skip piece with
  | nil =>
    have hpiece : piece = [] := by
      cases skip <;> simpa [piecesAfter] using h
    rw [hpiece, List.infix_nil]
    exact hsep
  | cons c s ih =>
    cases skip with
    | succ skip => exact ih h
    | zero =>
      rw [piecesAfter] at h
      split at h
      next =>
        rcases List.mem_cons.mp h with rfl | h
        · rw [List.infix_nil]
          exact hsep
        · exact ih h
      next hstart =>
        obtain ⟨first, rest, hprefix, hpieces⟩ := exists_prefix_pieces_eq_cons sep s
        unfold pieces at hpieces
        rw [hpieces, List.modifyHead_cons] at h
        rcases List.mem_cons.mp h with rfl | h
        · -- an occurrence at the start of the piece would be one at the start of the text
          rw [List.infix_cons_iff, not_or]
          constructor
          · intro hsepPrefix
            apply hstart
            rw [isSome_after?_iff]
            exact hsepPrefix.trans (List.cons_prefix_cons.mpr ⟨rfl, hprefix⟩)
          · have hfirst : first ∈ piecesAfter sep 0 s := by
              rw [hpieces]
              exact List.mem_cons_self
            exact ih hfirst
        · have hlater : piece ∈ piecesAfter sep 0 s := by
            rw [hpieces]
            exact List.mem_cons_of_mem _ h
          exact ih hlater

/-- No piece has the separator in it. -/
theorem not_infix_of_mem_pieces (hsep : sep ≠ []) {piece : List Char} (h : piece ∈ pieces sep s) :
    ¬ sep <:+: piece :=
  not_infix_of_mem_piecesAfter hsep h

/-- A separator that occurs makes at least two pieces. -/
theorem two_le_length_pieces (hsep : sep ≠ []) (h : sep <:+: s) : 2 ≤ (pieces sep s).length := by
  obtain ⟨first, rest, -, hpieces⟩ := exists_prefix_pieces_eq_cons sep s
  cases rest with
  | nil =>
    have hfirst : ¬ sep <:+: first := by
      refine not_infix_of_mem_pieces (s := s) hsep ?_
      rw [hpieces]
      exact List.mem_singleton_self first
    have hjoined := joined_pieces hsep s
    rw [hpieces] at hjoined
    rw [← hjoined] at h
    exact absurd h hfirst
  | cons second rest =>
    rw [hpieces, List.length_cons, List.length_cons]
    omega

/-- A text is cut at a separator that no other occurrence overlaps from the left. -/
theorem pieces_append (hsep : sep ≠ []) (h : ¬ sep <:+: a ++ sep.dropLast) (b : List Char) :
    pieces sep (a ++ (sep ++ b)) = a :: pieces sep b := by
  induction a with
  | nil =>
    obtain ⟨c, w, rfl⟩ := List.exists_cons_of_ne_nil hsep
    have hstart : (after? (c :: w) (c :: (w ++ b))).isSome = true :=
      isSome_after?_iff.mpr ⟨b, rfl⟩
    rw [List.nil_append, List.cons_append, pieces, piecesAfter, if_pos hstart, List.length_cons,
      Nat.add_sub_cancel, piecesAfter_append]
    rfl
  | cons c a ih =>
    have hin : ¬ sep <:+: a ++ sep.dropLast := fun hin =>
      h (hin.trans (List.suffix_cons c _).isInfix)
    have hstart : ¬ (after? sep (c :: (a ++ (sep ++ b)))).isSome = true := by
      rw [isSome_after?_iff]
      intro hpre
      -- the occurrence would end before the separator's last character
      have hshort : c :: a ++ sep.dropLast <+: c :: (a ++ (sep ++ b)) := by
        rw [List.cons_append, List.cons_prefix_cons, List.prefix_append_right_inj]
        exact ⟨rfl, sep.dropLast_prefix.trans (List.prefix_append sep b)⟩
      have hlength : sep.length ≤ (c :: a ++ sep.dropLast).length := by
        simp only [List.cons_append, List.length_cons, List.length_append, List.length_dropLast]
        omega
      exact h (List.prefix_of_prefix_length_le hpre hshort hlength).isInfix
    have hrest := ih hin
    rw [pieces] at hrest ⊢
    rw [List.cons_append, piecesAfter, if_neg hstart, hrest]
    rfl

/-- Joined parts are the pieces of the text again, when the separator does not occur in any of them,
nor begins in it and ends in the separator after it. -/
theorem pieces_joined (hsep : sep ≠ []) {parts : List (List Char)} (hparts : parts ≠ [])
    (h : ∀ part ∈ parts, ¬ sep <:+: part ++ sep.dropLast) :
    pieces sep (joined sep parts) = parts := by
  induction parts with
  | nil => exact absurd rfl hparts
  | cons part rest ih =>
    have hpart := h part List.mem_cons_self
    cases rest with
    | nil => exact pieces_of_not_infix fun hin => hpart (hin.trans (List.prefix_append _ _).isInfix)
    | cons next rest =>
      rw [joined, List.append_assoc, pieces_append hsep hpart,
        ih (List.cons_ne_nil _ _) fun p hp => h p (List.mem_cons_of_mem _ hp)]
      exact List.cons_ne_nil _ _

/-! ## Runs and matches -/

/-- A run of characters ends before one of another kind. -/
theorem run?_append_cons {p : Char → Bool} {taken rest : List Char} {c : Char} (hne : taken ≠ [])
    (h : ∀ x ∈ taken, p x = true) (hc : p c = false) :
    run? p (taken ++ c :: rest) = some (taken, c :: rest) := by
  rw [run?, List.takeWhile_append_of_pos h, List.dropWhile_append_of_pos h,
    List.takeWhile_cons_of_neg (by simp [hc]), List.dropWhile_cons_of_neg (by simp [hc]),
    List.append_nil]
  cases taken with
  | nil => exact absurd rfl hne
  | cons x taken => rfl

theorem run?_eq_self {p : Char → Bool} {taken : List Char} (hne : taken ≠ [])
    (h : ∀ x ∈ taken, p x = true) : run? p taken = some (taken, []) := by
  rw [run?, List.takeWhile_eq_self_iff.mpr h, List.dropWhile_eq_nil_iff.mpr h]
  cases taken with
  | nil => exact absurd rfl hne
  | cons x taken => rfl

/-- A run of characters ends where a text begins that does not go on with one of them. -/
theorem run?_append {p : Char → Bool} {taken rest : List Char} (hne : taken ≠ [])
    (h : ∀ x ∈ taken, p x = true) (hrest : ∀ c ∈ rest.head?, p c = false) :
    run? p (taken ++ rest) = some (taken, rest) := by
  cases rest with
  | nil => rw [List.append_nil, run?_eq_self hne h]
  | cons c rest => exact run?_append_cons hne h (hrest c rfl)

/-- A text that does not begin with such a character begins with no run. -/
theorem run?_eq_none {p : Char → Bool} (h : ∀ c ∈ s.head?, p c = false) : run? p s = none := by
  cases s with
  | nil => rfl
  | cons c s => rw [run?, List.takeWhile_cons_of_neg (by simp [h c rfl])]

/-- A run is what a text starts with, and all its characters are of the kind asked for. -/
theorem eq_append_of_run? {p : Char → Bool} {taken rest : List Char}
    (h : run? p s = some (taken, rest)) : s = taken ++ rest ∧ ∀ c ∈ taken, p c = true := by
  rw [run?] at h
  split at h
  · exact absurd h (by simp)
  · obtain ⟨rfl, rfl⟩ := Prod.mk.inj (Option.some_inj.mp h)
    exact ⟨List.takeWhile_append_dropWhile.symm, fun c hc => List.mem_takeWhile_imp hc⟩

theorem firstMatch?_of_eq_some {match? : List Char → Option α} {s : List Char} {x : α}
    (h : match? s = some x) : firstMatch? match? s = some x := by
  cases s with
  | nil => exact h
  | cons c cs => rw [firstMatch?, h, Option.some_or]

/-- A first match is a match at some place of the text. -/
theorem exists_suffix_of_firstMatch? {match? : List Char → Option α} {x : α}
    (h : firstMatch? match? s = some x) : ∃ t, t <:+ s ∧ match? t = some x := by
  induction s with
  | nil => exact ⟨[], List.suffix_rfl, h⟩
  | cons c cs ih =>
    rw [firstMatch?, Option.or_eq_some_iff] at h
    rcases h with hstart | ⟨-, hlater⟩
    · exact ⟨c :: cs, List.suffix_rfl, hstart⟩
    · obtain ⟨t, ht, hmatch⟩ := ih hlater
      exact ⟨t, ht.trans (List.suffix_cons c cs), hmatch⟩

theorem firstMatch?_eq_none {match? : List Char → Option α} (h : ∀ t, t <:+ s → match? t = none) :
    firstMatch? match? s = none := by
  induction s with
  | nil => exact h [] List.suffix_rfl
  | cons c cs ih =>
    rw [firstMatch?, h _ List.suffix_rfl, Option.none_or]
    exact ih fun t ht => h t (ht.trans (List.suffix_cons c cs))

/-- The search goes on behind a text at none of whose places there is a match. -/
theorem firstMatch?_append {match? : List Char → Option α}
    (h : ∀ t, t <:+ a → t ≠ [] → match? (t ++ b) = none) :
    firstMatch? match? (a ++ b) = firstMatch? match? b := by
  induction a with
  | nil => rfl
  | cons c a ih =>
    have hstart := h (c :: a) List.suffix_rfl (List.cons_ne_nil c a)
    rw [List.cons_append] at hstart ⊢
    rw [firstMatch?, hstart, Option.none_or]
    exact ih fun t ht => h t (ht.trans (List.suffix_cons c a))

end LogQuery.Text
