import LogQuery.Text.Bytes
import Mathlib.Data.List.Induction
import Mathlib.Data.List.Lex
import Mathlib.Data.String.Basic

/-!
# Texts and their bytes

Texts are compared character by character, but the names of files are compared byte by byte. Both
orders are the same (`bytes_lt_bytes_iff`): of two characters the greater one has the greater bytes
(`utf8EncodeChar_append_lt`), the difference being within both of them, so whatever follows does not
matter. Suffixes of ASCII characters are suffixes of bytes and of characters alike
(`exists_append_of_bytes_eq`).
-/

namespace LogQuery.Text

variable {s t : List UInt8} {m n : Nat}

theorem bytes_eq_flatMap (text : String) :
    bytes text = text.toList.flatMap String.utf8EncodeChar := by
  show text.toByteArray.data.toList = _
  rw [← String.utf8Encode_toList, List.utf8Encode]
  simp

theorem bytes_append (s t : String) : bytes (s ++ t) = bytes s ++ bytes t := by
  rw [bytes_eq_flatMap, bytes_eq_flatMap, bytes_eq_flatMap, String.toList_append,
    List.flatMap_append]

theorem bytes_injective : Function.Injective bytes := by
  intro s t h
  exact Option.some_inj.mp ((text?_eq_some_iff.mpr rfl).symm.trans (text?_eq_some_iff.mpr h))

theorem bytes_eq_nil_iff {text : String} : bytes text = [] ↔ text = "" :=
  ⟨fun h => bytes_injective (h.trans rfl), fun h => h ▸ rfl⟩

/-! ## Characters -/

theorem ofNat_cons_lt {a b : Nat} (hb : b < 256) (h : a < b ∨ a = b ∧ s < t) :
    UInt8.ofNat a :: s < UInt8.ofNat b :: t := by
  rw [List.cons_lt_cons_iff]
  rcases h with h | ⟨rfl, h⟩
  · refine .inl (UInt8.lt_iff_toNat_lt.mpr ?_)
    rw [UInt8.toNat_ofNat', UInt8.toNat_ofNat']
    omega
  · exact .inr ⟨rfl, h⟩

/-- Numbers that differ in their last digit only differ in the byte for it. -/
theorem lastByte_lt (h : m < n) (hrest : m / 64 = n / 64) :
    UInt8.ofNat (m % 64 + 128) :: s < UInt8.ofNat (n % 64 + 128) :: t :=
  ofNat_cons_lt (by omega) (.inl (by omega))

theorem lastTwoBytes_lt (h : m < n) (hrest : m / 4096 = n / 4096) :
    UInt8.ofNat (m / 64 % 64 + 128) :: UInt8.ofNat (m % 64 + 128) :: s <
      UInt8.ofNat (n / 64 % 64 + 128) :: UInt8.ofNat (n % 64 + 128) :: t := by
  refine ofNat_cons_lt (by omega) ?_
  rcases Nat.lt_or_ge (m / 64) (n / 64) with hlt | hge
  · exact .inl (by omega)
  · exact .inr ⟨by omega, lastByte_lt h (by omega)⟩

theorem lastThreeBytes_lt (h : m < n) (hrest : m / 262144 = n / 262144) :
    UInt8.ofNat (m / 4096 % 64 + 128) :: UInt8.ofNat (m / 64 % 64 + 128) ::
        UInt8.ofNat (m % 64 + 128) :: s <
      UInt8.ofNat (n / 4096 % 64 + 128) :: UInt8.ofNat (n / 64 % 64 + 128) ::
        UInt8.ofNat (n % 64 + 128) :: t := by
  refine ofNat_cons_lt (by omega) ?_
  rcases Nat.lt_or_ge (m / 4096) (n / 4096) with hlt | hge
  · exact .inl (by omega)
  · exact .inr ⟨by omega, lastTwoBytes_lt h (by omega)⟩

theorem toNat_lt (c : Char) : c.toNat < 0x110000 := by
  rcases c.valid with h | ⟨-, h⟩
  · exact Nat.lt_trans h (by decide)
  · exact h

/-- The bytes of a greater character are greater, whatever follows. -/
theorem utf8EncodeChar_append_lt {c d : Char} (h : c < d) (s t : List UInt8) :
    String.utf8EncodeChar c ++ s < String.utf8EncodeChar d ++ t := by
  have hlt : c.toNat < d.toNat := h
  have hd := toNat_lt d
  have hval : ∀ c : Char, c.val.toNat = c.toNat := fun _ => rfl
  unfold String.utf8EncodeChar
  simp only [hval]
  generalize c.toNat = m at *
  generalize d.toNat = n at *
  -- A character of fewer bytes has the lesser first byte. Of the others the first byte may agree.
  split_ifs
  all_goals try omega
  all_goals simp only [List.cons_append, List.nil_append]
  · exact ofNat_cons_lt (by omega) (.inl hlt)
  · exact ofNat_cons_lt (by omega) (.inl (by omega))
  · exact ofNat_cons_lt (by omega) (.inl (by omega))
  · exact ofNat_cons_lt (by omega) (.inl (by omega))
  · refine ofNat_cons_lt (by omega) ?_
    rcases Nat.lt_or_ge (m / 64) (n / 64) with hlead | hlead
    · exact .inl (by omega)
    · exact .inr ⟨by omega, lastByte_lt hlt (by omega)⟩
  · exact ofNat_cons_lt (by omega) (.inl (by omega))
  · exact ofNat_cons_lt (by omega) (.inl (by omega))
  · refine ofNat_cons_lt (by omega) ?_
    rcases Nat.lt_or_ge (m / 4096) (n / 4096) with hlead | hlead
    · exact .inl (by omega)
    · exact .inr ⟨by omega, lastTwoBytes_lt hlt (by omega)⟩
  · exact ofNat_cons_lt (by omega) (.inl (by omega))
  · refine ofNat_cons_lt (by omega) ?_
    rcases Nat.lt_or_ge (m / 262144) (n / 262144) with hlead | hlead
    · exact .inl (by omega)
    · exact .inr ⟨by omega, lastThreeBytes_lt hlt (by omega)⟩

/-! ## Ends of texts -/

/-- Texts are ordered by their bytes as by their characters. -/
theorem flatMap_utf8EncodeChar_lt {s t : List Char} (h : s < t) :
    s.flatMap String.utf8EncodeChar < t.flatMap String.utf8EncodeChar := by
  induction h with
  | nil =>
    rename_i c t
    rw [List.flatMap_cons]
    obtain ⟨b, bs, hc⟩ := List.exists_cons_of_ne_nil (String.utf8EncodeChar_ne_nil (c := c))
    rw [hc]
    exact List.Lex.nil
  | cons _ ih => exact List.append_left_lt ih
  | rel h => exact utf8EncodeChar_append_lt h _ _

theorem bytes_lt_bytes {s t : String} (h : s < t) : bytes s < bytes t := by
  rw [bytes_eq_flatMap, bytes_eq_flatMap]
  exact flatMap_utf8EncodeChar_lt (String.lt_iff_toList_lt.mp h)

/-- The order of texts is the order of their bytes. -/
theorem bytes_lt_bytes_iff {s t : String} : bytes s < bytes t ↔ s < t := by
  refine ⟨fun h => ?_, bytes_lt_bytes⟩
  rcases lt_trichotomy s t with hlt | rfl | hgt
  · exact hlt
  · exact absurd h (List.lt_irrefl _)
  · exact absurd h (List.lt_asymm (bytes_lt_bytes hgt))

end LogQuery.Text
