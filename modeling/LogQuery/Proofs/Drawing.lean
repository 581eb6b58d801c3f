import LogQuery.Random.Draw
import Mathlib.Data.List.Forall2

/-!
# What draws yield

Statements about drawn values that hold whatever the keystream is (`Yields`), with a rule for each
way of putting draws together. A number drawn below a bound is below it (`yields_below`), and an
element drawn from a list is one of its elements (`yields_oneOf`). Draws that are repeated yield
values that match what each of them was told (`yields_mapM`, `yields_times`). The text of a random
identifier shows its version and its variant (`yields_identifier`).
-/

namespace LogQuery.Random

open Text

variable {α β : Type} {P : α → Prop} {Q : β → Prop}

/-- Whatever the keystream, the draw makes a value of which the property holds. -/
def Yields (draw : Draw α) (P : α → Prop) : Prop := ∀ k : Keystream, P (draw k).1

theorem Yields.imp {P' : α → Prop} {draw : Draw α} (h : Yields draw P) (hP : ∀ a, P a → P' a) :
    Yields draw P' :=
  fun k => hP _ (h k)

theorem yields_pure {a : α} (h : P a) : Yields (pure a) P := fun _ => h

theorem yields_true (draw : Draw α) : Yields draw fun _ => True := fun _ => trivial

/-- A draw that goes on with what another one makes. -/
theorem Yields.bind {draw : Draw α} {next : α → Draw β} (h : Yields draw P)
    (hnext : ∀ a, P a → Yields (next a) Q) : Yields (draw >>= next) Q :=
  fun k => hnext _ (h k) _

/-! ## Values that match a list -/

/-- What holds of every value that matches something holds of all values that match a list. -/
theorem forall_mem_of_forall₂ {R : α → β → Prop} {l : List α} {values : List β}
    (h : List.Forall₂ R l values) (hQ : ∀ a b, R a b → Q b) : ∀ value ∈ values, Q value := by
  induction h with
  | nil => exact List.forall_mem_nil _
  | cons hvalue _ ih => exact List.forall_mem_cons.mpr ⟨hQ _ _ hvalue, ih⟩

/-- Values that match a list show what the list shows. -/
theorem map_eq_map_of_forall₂ {γ : Type} {R : α → β → Prop} {f : β → γ} {g : α → γ} {l : List α}
    {values : List β} (h : List.Forall₂ R l values) (hfg : ∀ a b, R a b → f b = g a) :
    values.map f = l.map g := by
  induction h with
  | nil => rfl
  | cons hvalue _ ih => rw [List.map_cons, List.map_cons, hfg _ _ hvalue, ih]

/-- Draws for the elements of a list yield values that match them one by one. -/
theorem yields_mapM {R : α → β → Prop} {draw : α → Draw β} {l : List α}
    (h : ∀ a ∈ l, Yields (draw a) (R a)) : Yields (l.mapM draw) (List.Forall₂ R l) := by
  induction l with
  | nil => exact yields_pure .nil
  | cons a l ih =>
    rw [List.forall_mem_cons] at h
    rw [List.mapM_cons]
    exact h.1.bind fun b hb => (ih h.2).bind fun bs hbs => yields_pure (.cons hb hbs)

/-- Drawing so many times yields a list with one member for each draw. -/
theorem yields_times {R : Nat → α → Prop} {n : Nat} {draw : Nat → Draw α}
    (h : ∀ i < n, Yields (draw i) (R i)) :
    Yields (times n draw) (List.Forall₂ R (List.range n)) :=
  yields_mapM fun i hi => h i (List.mem_range.mp hi)

/-- Draws of one kind yield so many values of that kind. -/
theorem yields_times_forall {n : Nat} {draw : Nat → Draw α} (h : ∀ i < n, Yields (draw i) P) :
    Yields (times n draw) fun values => values.length = n ∧ ∀ value ∈ values, P value := by
  refine (yields_times h).imp fun values hvalues => ⟨?_, ?_⟩
  · rw [← hvalues.length_eq, List.length_range]
  · exact forall_mem_of_forall₂ hvalues fun _ _ => id

/-! ## Numbers -/

theorem yields_wide : Yields wide (· < UInt64.size) := by
  refine (yields_true word).bind fun low _ => (yields_true word).bind fun high _ => yields_pure ?_
  have hlow := low.toNat_lt
  have hhigh := high.toNat_lt
  show low.toNat + 0x100000000 * high.toNat < 0x10000000000000000
  omega

/-- A draw that is repeated until it fits yields a number below the bound, also when it gives up. -/
theorem yields_belowWithin {bound : Nat} (h : 0 < bound) (zone attempts : Nat) :
    Yields (belowWithin bound zone attempts) (· < bound) := by
  induction attempts with
  | zero => exact yields_pure h
  | succ attempts ih =>
    refine yields_wide.bind fun n hn => ?_
    show Yields (if _ then _ else _) _
    split
    · refine yields_pure (Nat.div_lt_of_lt_mul ?_)
      exact Nat.mul_lt_mul_of_pos_right hn h
    · exact ih

theorem yields_below {bound : Nat} (h : 0 < bound) : Yields (below bound) (· < bound) :=
  yields_belowWithin h _ _

theorem yields_oneOf {choices : List α} (h : choices ≠ []) (default : α) :
    Yields (oneOf default choices) (· ∈ choices) := by
  refine (yields_below (List.length_pos_of_ne_nil h)).bind fun i hi => yields_pure ?_
  rw [List.getD_eq_getElem?_getD, List.getElem?_eq_getElem hi]
  exact List.getElem_mem hi

/-! ## Identifiers -/

/-- The small hexadecimal digits. -/
def hexDigits : List Char := "0123456789abcdef".toList

/-- The characters that can stand at each place of an identifier of version four. -/
def identifierPattern : List (List Char) :=
  let digits (n : Nat) := List.replicate n hexDigits
  digits 8 ++ ['-'] :: digits 4 ++ ['-'] :: ['4'] :: digits 3 ++
    ['-'] :: ['8', '9', 'a', 'b'] :: digits 3 ++ ['-'] :: digits 12

/-- A text is that of an identifier of version four. -/
def IsIdentifier (text : List Char) : Prop :=
  List.Forall₂ (fun c allowed => c ∈ allowed) text identifierPattern

theorem IsIdentifier.length_eq {text : List Char} (h : IsIdentifier text) : text.length = 36 := by
  rw [List.Forall₂.length_eq h]
  rfl

theorem hexDigit_mem_hexDigits : ∀ n < 16, hexDigit n ∈ hexDigits := by decide

/-- The seventh byte shows the version and the ninth the variant, whatever they were before. -/
theorem isIdentifier_identifierText {bytes : List Nat} (hlength : bytes.length = 16)
    (h : ∀ byte ∈ bytes, byte < 256) : IsIdentifier (identifierText bytes) := by
  have hhigh : ∀ byte ∈ bytes, hexDigit (byte / 16) ∈ hexDigits := fun byte hbyte =>
    hexDigit_mem_hexDigits _ (Nat.div_lt_of_lt_mul (h byte hbyte))
  have hlow : ∀ n : Nat, hexDigit (n % 16) ∈ hexDigits := fun n =>
    hexDigit_mem_hexDigits _ (Nat.mod_lt n (by decide))
  have hversion : ∀ n : Nat, hexDigit ((0x40 + n % 16) / 16) = '4' := by
    intro n
    have hfour : (0x40 + n % 16) / 16 = 4 := by omega
    rw [hfour]
    rfl
  have hvariant : ∀ n : Nat, hexDigit ((0x80 + n % 64) / 16) ∈ ['8', '9', 'a', 'b'] := by
    intro n
    have hall : ∀ m < 4, hexDigit (8 + m) ∈ ['8', '9', 'a', 'b'] := by decide
    have heq : (0x80 + n % 64) / 16 = 8 + n % 64 / 16 := by omega
    rw [heq]
    exact hall _ (by omega)
  match bytes, hlength with
  | [_, _, _, _, _, _, _, _, _, _, _, _, _, _, _, _], _ =>
    simp only [List.forall_mem_cons] at hhigh
    simp [IsIdentifier, identifierPattern, identifierText, byteText, List.replicate, hhigh, hlow,
      hversion, hvariant]

theorem yields_identifier : Yields identifier fun text => IsIdentifier text.toList := by
  have hbyte : Yields (do return (← word).toNat % 256) (· < 256) :=
    (yields_true word).bind fun w _ => yields_pure (Nat.mod_lt _ (by decide))
  refine (yields_times_forall fun _ _ => hbyte).bind fun bytes hbytes => yields_pure ?_
  rw [String.toList_ofList]
  exact isIdentifier_identifierText hbytes.1 hbytes.2
end LogQuery.Random
