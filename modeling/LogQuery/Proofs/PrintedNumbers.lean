import LogQuery.Proofs.JsonReading
import LogQuery.Proofs.PaddedNumbers

/-!
# Printed floating-point numbers

What is printed for a floating-point number of less than `2 ^ 53` is read as a number
(`exists_reads_writeFinite`). It need not be the same one: the reader rounds twice, to a significand
and then to a quotient. But it always is one. Such a number has no more than sixteen digits before
its point (`length_digits_shortest`), so they fit the significand of the reader, and those behind
the point only make the exponent negative. A number that is divided never is out of range
(`Numeral.IsFractional.exists_toJson_eq_float`).
-/

namespace LogQuery

namespace Decimal

/-! ## The digits of the shortest decimal -/

/-- The digits before the point of a decimal are counted by its size. -/
theorem length_digits_add_le {d : Nat} {exponent : Int} {places : Nat} (hd : d ≠ 0)
    (h : d * 10 ^ exponent.toNat < 10 ^ places * 10 ^ (-exponent).toNat) :
    (digits d).length + exponent ≤ places := by
  rcases Int.le_total 0 exponent with hexp | hexp
  · obtain ⟨e, rfl⟩ := Int.eq_ofNat_of_zero_le hexp
    have hneg : (-(e : Int)).toNat = 0 := by omega
    rw [Int.toNat_natCast, hneg, Nat.pow_zero, Nat.mul_one] at h
    have hle : 10 ^ e ≤ d * 10 ^ e := Nat.le_mul_of_pos_left _ (Nat.pos_of_ne_zero hd)
    have hlt : e < places := (Nat.pow_lt_pow_iff_right (by decide)).mp (hle.trans_lt h)
    obtain ⟨k, rfl⟩ : ∃ k, places = k + e := ⟨places - e, by omega⟩
    rw [Nat.pow_add] at h
    have hlength := (Nat.length_toDigits_le_iff (by decide) (by omega)).mpr
      (Nat.lt_of_mul_lt_mul_right h)
    have hdigits : (digits d).length ≤ k := hlength
    omega
  · obtain ⟨e, he⟩ := Int.eq_ofNat_of_zero_le (Int.neg_nonneg_of_nonpos hexp)
    have hpos : exponent.toNat = 0 := by omega
    rw [he, Int.toNat_natCast, hpos, Nat.pow_zero, Nat.mul_one, ← Nat.pow_add] at h
    by_cases hzero : places + e = 0
    · rw [hzero] at h
      omega
    · have hlength : (digits d).length ≤ places + e :=
        (Nat.length_toDigits_le_iff (by decide) (Nat.pos_of_ne_zero hzero)).mpr h
      omega

/-- A multiple that reads back as a number is not zero, and not far above the number. -/
theorem onGrid?_bounds {x : Binary} {tie : Tie} {scale : Int} {d : Nat}
    (hsignificand : x.significand ≠ 0) (hexponent : x.exponent ≤ 0)
    (h : x.onGrid? tie scale = some d) :
    d ≠ 0 ∧ d * 10 ^ scale.toNat < (x.significand + 1) * 10 ^ (-scale).toNat := by
  unfold Binary.onGrid? at h
  extract_lets quarter up unit low number high readsBack below above at h
  have hreads : readsBack d = true := by
    split at h
    · obtain rfl := Option.some_inj.mp h
      assumption
    · obtain rfl := Option.some_inj.mp h
      assumption
    · cases h
    · split at h
      · obtain rfl := Option.some_inj.mp h
        assumption
      · obtain rfl := Option.some_inj.mp h
        assumption
      · obtain rfl := Option.some_inj.mp h
        assumption
      · obtain rfl := Option.some_inj.mp h
        split <;> assumption
  have hbounds : low ≤ d * unit ∧ d * unit ≤ high := by
    simp only [readsBack] at hreads
    split at hreads
    all_goals
      rw [Bool.and_eq_true, decide_eq_true_eq, decide_eq_true_eq] at hreads
      omega
  have hup : up = 10 ^ (-scale).toNat := by
    have hquarter : quarter.toNat = 0 := by omega
    simp only [up, hquarter, Nat.shiftLeft_zero]
    rfl
  have hunit : 4 * 10 ^ scale.toNat ≤ unit := by
    have hquarter : 2 ≤ (-quarter).toNat := by omega
    simp only [unit, Nat.shiftLeft_eq]
    rw [Nat.mul_comm]
    exact Nat.mul_le_mul_left _ (Nat.pow_le_pow_right (by decide : 0 < 2) hquarter)
  have hpos : 0 < 10 ^ (-scale).toNat := Nat.pow_pos (by decide)
  constructor
  · rintro rfl
    have hlow : 0 < low := by
      simp only [low, hup]
      refine Nat.mul_pos ?_ hpos
      split <;> omega
    omega
  · have hle : d * (4 * 10 ^ scale.toNat) ≤ (4 * x.significand + 2) * 10 ^ (-scale).toNat := by
      refine (Nat.mul_le_mul_left d hunit).trans (hbounds.2.trans ?_)
      simp only [high, hup]
      exact Nat.le_refl _
    have hlt : (4 * x.significand + 2) * 10 ^ (-scale).toNat <
        (4 * (x.significand + 1)) * 10 ^ (-scale).toNat :=
      Nat.mul_lt_mul_of_pos_right (by omega) hpos
    have hfour := hle.trans_lt hlt
    rw [Nat.mul_left_comm, Nat.mul_assoc] at hfour
    exact Nat.lt_of_mul_lt_mul_left hfour

/-- A number that is written out in full is not far above itself either. -/
theorem exact_bounds {x : Binary} (hsignificand : x.significand ≠ 0) (hexponent : x.exponent ≤ 0) :
    x.exact.digits ≠ 0 ∧ x.exact.digits * 10 ^ x.exact.exponent.toNat <
      (x.significand + 1) * 10 ^ (-x.exact.exponent).toNat := by
  unfold Binary.exact
  split
  next hnonneg =>
    have hzero : x.exponent = 0 := by omega
    rw [hzero]
    exact ⟨hsignificand, by simp⟩
  next hneg =>
    have htoNat : x.exponent.toNat = 0 := by omega
    have hpos : ∀ base n : Nat, 0 < base → 0 < Nat.pow base n := fun _ _ => Nat.pow_pos
    refine ⟨Nat.mul_ne_zero hsignificand (hpos 5 _ (by decide)).ne', ?_⟩
    simp only [htoNat, Nat.pow_zero, Nat.mul_one]
    have hpow : 5 ^ (-x.exponent).toNat ≤ 10 ^ (-x.exponent).toNat :=
      Nat.pow_le_pow_left (by decide) _
    exact Nat.mul_lt_mul_of_lt_of_le (Nat.lt_succ_self _) hpow (hpos 10 _ (by decide))

/-- So the shortest decimal is within these bounds, wherever the search ends. -/
theorem shortest_bounds {x : Binary} (tie : Tie) (hsignificand : x.significand ≠ 0)
    (hexponent : x.exponent ≤ 0) :
    (x.shortest tie).digits ≠ 0 ∧ (x.shortest tie).digits * 10 ^ (x.shortest tie).exponent.toNat <
      (x.significand + 1) * 10 ^ (-(x.shortest tie).exponent).toNat := by
  unfold Binary.shortest
  dsimp only
  split
  next decimal hfound =>
    obtain ⟨scale, -, hscale⟩ := List.exists_of_findSome?_eq_some hfound
    obtain ⟨d, hd, rfl⟩ := Option.map_eq_some_iff.mp hscale
    exact onGrid?_bounds hsignificand hexponent hd
  next => exact exact_bounds hsignificand hexponent

/-- The shortest decimal of a number below `10 ^ 16` that is no multiple of two has at most sixteen
digits before its point. -/
theorem length_digits_shortest {x : Binary} (tie : Tie) (hsignificand : x.significand ≠ 0)
    (hlt : x.significand < 10 ^ 16) (hexponent : x.exponent ≤ 0) :
    (digits (x.shortest tie).digits).length + (x.shortest tie).exponent ≤ 16 := by
  obtain ⟨hne, hbound⟩ := shortest_bounds tie hsignificand hexponent
  refine length_digits_add_le hne (hbound.trans_le ?_)
  exact Nat.mul_le_mul_right _ hlt

end Decimal

namespace Json

open Decimal

/-! ## Numerals that are in range -/

/-- A number that is divided by a power of ten is in range. -/
theorem scale?_of_neg {significand : Nat} {exponent : Int} (h : exponent < 0) :
    scale? significand exponent = some (scaleDown (Float.ofNat significand) exponent.natAbs 4) :=
  if_pos h

theorem le_digitsValueFrom (n : Nat) (ds : List Char) : n ≤ digitsValueFrom n ds := by
  induction ds generalizing n with
  | nil => exact Nat.le_refl n
  | cons c ds ih =>
    rw [Time.digitsValueFrom_cons]
    exact Nat.le_trans (by omega) (ih _)

/-- All digits before the point are counted when their value fits the significand. -/
theorem wholeSignificand_eq {n : Nat} {ds : List Char}
    (h : digitsValueFrom n ds ≤ maxSignificand) :
    wholeSignificand n ds = (digitsValueFrom n ds, 0) := by
  induction ds generalizing n with
  | nil => rfl
  | cons c ds ih =>
    rw [Time.digitsValueFrom_cons] at h ⊢
    rw [wholeSignificand]
    have hnext : digitsValueFrom n [c] = 10 * n + (c.toNat - 48) := by
      rw [Time.digitsValueFrom_cons]
      rfl
    rw [hnext, if_pos ((le_digitsValueFrom _ ds).trans h)]
    exact ih h

namespace Numeral

/-- A numeral whose digits before the point fit the significand, and that has digits behind the
point or a negative exponent. -/
structure IsFractional (numeral : Numeral) : Prop extends numeral.IsWellFormed where
  length_whole_le : numeral.whole.length ≤ 16
  has_fraction : (numeral.exponent = none ∧ numeral.fraction ≠ []) ∨
    ∃ ds, numeral.exponent = some (true, ds) ∧ digitsValue ds ≠ 0

variable {numeral : Numeral}

/-- The sign makes no difference. -/
theorem IsFractional.withSign (h : numeral.IsFractional) (negative : Bool) :
    IsFractional { numeral with negative } :=
  ⟨⟨h.whole_ne_nil, h.length_whole, h.isDigit_whole, h.isDigit_fraction, h.isDigit_exponent⟩,
    h.length_whole_le, h.has_fraction⟩

theorem wholeSignificand_whole (h : numeral.IsFractional) :
    wholeSignificand 0 numeral.whole = (digitsValue numeral.whole, 0) ∧
      digitsValue numeral.whole < 10 ^ 16 := by
  have hlt : digitsValue numeral.whole < 10 ^ 16 :=
    (Time.digitsValue_lt h.isDigit_whole).trans_le
      (Nat.pow_le_pow_right (by decide) h.length_whole_le)
  refine ⟨wholeSignificand_eq ?_, hlt⟩
  show digitsValue numeral.whole ≤ 0xFFFFFFFFFFFFFFFF
  omega

/-- The first digit behind the point fits the significand. -/
theorem fractionSignificand_pos (h : numeral.IsFractional) (hne : numeral.fraction ≠ []) :
    0 < (fractionSignificand (digitsValue numeral.whole) numeral.fraction).2 := by
  have hlt := (wholeSignificand_whole h).2
  obtain ⟨c, ds, hcons⟩ := List.exists_cons_of_ne_nil hne
  have hc := Time.digit_bounds (h.isDigit_fraction c (hcons ▸ List.mem_cons_self))
  have hnext : digitsValueFrom (digitsValue numeral.whole) [c] =
      10 * digitsValue numeral.whole + (c.toNat - 48) := by
    rw [Time.digitsValueFrom_cons]
    rfl
  have hfits : digitsValueFrom (digitsValue numeral.whole) [c] ≤ maxSignificand := by
    rw [hnext]
    show _ ≤ 0xFFFFFFFFFFFFFFFF
    omega
  rw [hcons, fractionSignificand, if_pos hfits]
  exact Nat.succ_pos _

/-- Such a numeral is in range: its places and its negative exponent only make it smaller, down to
zero, which is in range too. -/
theorem exists_magnitude? (h : numeral.IsFractional) : ∃ x, numeral.magnitude? = some x := by
  rw [magnitude?, (wholeSignificand_whole h).1]
  dsimp only
  generalize hread : fractionSignificand (digitsValue numeral.whole) numeral.fraction = read
  obtain ⟨significand, places⟩ := read
  rcases h.has_fraction with ⟨hexponent, hfraction⟩ | ⟨ds, hexponent, hds⟩
  · have hplaces : 0 < places := by
      have hpos := fractionSignificand_pos h hfraction
      rwa [hread] at hpos
    rw [hexponent]
    exact ⟨_, scale?_of_neg (by omega)⟩
  · rw [hexponent]
    simp only [not_true_eq_false, and_false, if_false, if_true]
    split
    · exact ⟨0, rfl⟩
    · refine ⟨_, scale?_of_neg ?_⟩
      rw [maxExponent]
      omega

/-- Such a numeral denotes a floating-point number. -/
theorem IsFractional.exists_toJson_eq_float (h : numeral.IsFractional) :
    ∃ x, numeral.toJson = .float x := by
  have hkind : (numeral.fraction.isEmpty && numeral.exponent.isNone &&
      decide (digitsValue numeral.whole ≤ maxSignificand)) = false := by
    rcases h.has_fraction with ⟨-, hfraction⟩ | ⟨ds, hexponent, -⟩
    · simp [hfraction]
    · simp [hexponent]
  obtain ⟨x, hx⟩ := exists_magnitude? h
  rw [toJson, hkind, hx]
  exact ⟨_, rfl⟩

/-! ## Numerals that are printed -/

theorem isDigit_replicate_zero (n : Nat) : ∀ c ∈ List.replicate n '0', isDigit c = true := by
  intro c hc
  rw [List.eq_of_mem_replicate hc]
  rfl

theorem isDigit_zero : ∀ c ∈ ['0'], isDigit c = true := isDigit_replicate_zero 1

end Numeral

section Layout

open Numeral

variable {ds : List Char} {point : Int}

/-- Digits on both sides of a point are a numeral, when a zero in front stands alone. -/
theorem exists_sizeText_eq_append {whole fraction : List Char} (hne : whole ≠ [])
    (hwhole : ∀ c ∈ whole, isDigit c = true) (hzero : whole.head? = some '0' → whole.length = 1)
    (hlength : whole.length ≤ 16) (hfraction : fraction ≠ [])
    (hdigits : ∀ c ∈ fraction, isDigit c = true) :
    ∃ numeral : Numeral, numeral.IsFractional ∧ numeral.sizeText = whole ++ '.' :: fraction := by
  refine ⟨⟨false, whole, fraction, none⟩, ?_, ?_⟩
  · refine ⟨⟨hne, hzero, hwhole, hdigits, ?_⟩, hlength, .inl ⟨rfl, hfraction⟩⟩
    intro part hpart
    cases hpart
  · simp only [sizeText, fractionText, exponentText, hfraction, if_false, List.append_nil]

/-- Digits are written around a point with at least one digit on either side of it. -/
theorem exists_sizeText_eq_positionalText (hne : ds ≠ []) (hdigits : ∀ c ∈ ds, isDigit c = true)
    (hhead : ds.head? = some '0' → ds.length = 1 ∧ point = 1) (hpoint : point ≤ 16) :
    ∃ numeral : Numeral, numeral.IsFractional ∧
      numeral.sizeText = positionalText floatStyle ds point := by
  have hpos := List.length_pos_iff.mpr hne
  rw [positionalText]
  split
  next hle =>
    -- zeros between the point and the digits
    refine exists_sizeText_eq_append (List.cons_ne_nil _ _) isDigit_zero (fun _ => rfl) ?_ ?_ ?_
    · show 1 ≤ 16
      decide
    · exact List.append_ne_nil_of_right_ne_nil _ hne
    · exact List.forall_mem_append.mpr ⟨isDigit_replicate_zero _, hdigits⟩
  next hgt =>
    split
    next hlt =>
      -- the point among the digits
      have hhead' : (ds.take point.toNat).head? = some '0' → (ds.take point.toNat).length = 1 := by
        intro hzero
        rw [List.head?_take, if_neg (by omega)] at hzero
        have := hhead hzero
        omega
      refine exists_sizeText_eq_append ?_ ?_ hhead' ?_ ?_ ?_
      · rw [Ne, List.take_eq_nil_iff]
        exact fun h => h.elim (by omega) hne
      · exact fun c hc => hdigits c (List.mem_of_mem_take hc)
      · rw [List.length_take]
        omega
      · rw [Ne, List.drop_eq_nil_iff]
        omega
      · exact fun c hc => hdigits c (List.mem_of_mem_drop hc)
    next hge =>
      -- zeros between the digits and the point
      have hlength : (ds ++ List.replicate (point.toNat - ds.length) '0').length = point.toNat := by
        rw [List.length_append, List.length_replicate]
        omega
      refine exists_sizeText_eq_append ?_ ?_ ?_ ?_ (List.cons_ne_nil _ _) isDigit_zero
      · exact List.append_ne_nil_of_left_ne_nil hne _
      · exact List.forall_mem_append.mpr ⟨hdigits, isDigit_replicate_zero _⟩
      · intro hzero
        rw [List.head?_append_of_ne_nil _ hne] at hzero
        have := hhead hzero
        omega
      · omega

/-- Digits with a negative exponent behind them are a numeral. -/
theorem exists_sizeText_eq_scientificText {exponent : Int} (hne : ds ≠ [])
    (hdigits : ∀ c ∈ ds, isDigit c = true) (hexponent : exponent < 0) :
    ∃ numeral : Numeral, numeral.IsFractional ∧ numeral.sizeText = scientificText ds exponent := by
  have hpos := List.length_pos_iff.mpr hne
  have hlength : (ds.take 1).length = 1 := by
    rw [List.length_take]
    omega
  have htake : ds.take 1 ≠ [] := List.ne_nil_of_length_pos (by omega)
  refine ⟨⟨false, ds.take 1, ds.drop 1, some (true, digits exponent.natAbs)⟩, ?_, ?_⟩
  · refine ⟨⟨htake, fun _ => hlength, fun c hc => hdigits c (List.mem_of_mem_take hc),
      fun c hc => hdigits c (List.mem_of_mem_drop hc), ?_⟩, ?_, .inr ⟨_, rfl, ?_⟩⟩
    · rintro part ⟨rfl⟩
      exact ⟨digits_ne_nil _, fun c => isDigit_of_mem_digits⟩
    · show (ds.take 1).length ≤ 16
      omega
    · rw [digitsValue_digits]
      omega
  · simp only [sizeText, fractionText, exponentText, scientificText, if_pos hexponent, if_true,
      List.drop_eq_nil_iff]
    rw [List.append_assoc]

/-- What is written for a decimal with at most sixteen digits before its point is a numeral. -/
theorem exists_sizeText_eq_write {d : Scaled} (hd : d.digits = 0 → d.exponent = 0)
    (hpoint : (digits d.digits).length + d.exponent ≤ 16) :
    ∃ numeral : Numeral, numeral.IsFractional ∧ numeral.sizeText = floatStyle.write d := by
  have hdigits : ∀ c ∈ digits d.digits, isDigit c = true := fun c => isDigit_of_mem_digits
  have hne := digits_ne_nil d.digits
  have hhead : (digits d.digits).head? = some '0' →
      (digits d.digits).length = 1 ∧ (digits d.digits).length + d.exponent = 1 := by
    intro hzero
    have hnone : d.digits = 0 := by_contra fun hdigits => head?_digits hdigits hzero
    rw [hnone, hd hnone]
    decide
  show ∃ numeral : Numeral, _ ∧ _ = ite _ _ _
  split
  next hpositional => exact exists_sizeText_eq_positionalText hne hdigits hhead hpoint
  next hscientific => exact exists_sizeText_eq_scientificText hne hdigits (by omega)

end Layout

end Json

/-! ## Numbers below a bound -/

namespace Decimal

/-- A finite number whose significand is not multiplied by a power of two, which holds of all whose
size is below `2 ^ 53`. -/
def IsModest (x : Float) : Prop := (Binary.ofBits x.toBits).exponent ≤ 0

variable {x : Float}

theorem toNat_and_two_pow_sub_one (bits mask : UInt64) (k : Nat) (hmask : mask.toNat = 2 ^ k - 1) :
    (bits &&& mask).toNat = bits.toNat % 2 ^ k := by
  rw [UInt64.toNat_and, hmask, Nat.and_two_pow_sub_one_eq_mod]

theorem significand_ofBits_lt (bits : UInt64) : (Binary.ofBits bits).significand < 10 ^ 16 := by
  have hfraction : (bits &&& 0xFFFFFFFFFFFFF).toNat < 2 ^ 52 := by
    rw [toNat_and_two_pow_sub_one bits _ 52 rfl]
    exact Nat.mod_lt _ (by decide)
  rw [Binary.ofBits]
  split
  · show (bits &&& 0xFFFFFFFFFFFFF).toNat < 10 ^ 16
    omega
  · show (bits &&& 0xFFFFFFFFFFFFF).toNat + 0x10000000000000 < 10 ^ 16
    omega

/-- The exponent of an infinity or of no number at all is the greatest one. -/
theorem isFinite_of_isModest (h : IsModest x) : x.isFinite = true := by
  have hexponent : (@Float.Model.UnpackedFloat.unpackExponent .binary64 x.toBits.toBitVec).toNat =
      ((x.toBits >>> 52) &&& 0x7FF).toNat := by
    rw [toNat_and_two_pow_sub_one _ _ 11 rfl]
    rfl
  have hne : (@Float.Model.UnpackedFloat.unpackExponent .binary64 x.toBits.toBitVec).toNat ≠
      2047 := by
    intro hall
    rw [IsModest, Binary.ofBits, ← hexponent, hall] at h
    revert h
    simp
  show (Float.Model.UnpackedFloat.unpack .binary64 x.toBits.toBitVec).isFinite = true
  unfold Float.Model.UnpackedFloat.unpack
  extract_lets mantissa exponent
  rw [if_neg fun hall => hne (congrArg BitVec.toNat hall)]
  by_cases hexponent : exponent = 0#_
  · rw [if_pos hexponent]
    by_cases hmantissa : mantissa = 0#_
    · rw [dif_pos hmantissa]
      rfl
    · rw [dif_neg hmantissa]
      rfl
  · rw [if_neg hexponent]
    rfl

end Decimal

namespace Json

open Decimal

/-- What is written for a modest number is read as a number. -/
theorem exists_reads_writeFinite {x : Float} (h : IsModest x) :
    ∃ y, Reads (.float y) (floatStyle.writeFinite x) := by
  obtain ⟨magnitude, hd, hpoint, hwrite⟩ : ∃ d : Scaled, (d.digits = 0 → d.exponent = 0) ∧
      (digits d.digits).length + d.exponent ≤ 16 ∧
      floatStyle.writeFinite x =
        if x.toBits >>> 63 = 1 then '-' :: floatStyle.write d else floatStyle.write d := by
    by_cases hzero : (Binary.ofBits x.toBits).significand = 0
    · refine ⟨⟨0, 0⟩, fun _ => rfl, by decide, ?_⟩
      rw [Style.writeFinite]
      simp only [hzero, if_true]
    · refine ⟨(Binary.ofBits x.toBits).shortest floatStyle.tie, ?_, ?_, ?_⟩
      · exact fun hnone => absurd hnone (shortest_bounds _ hzero h).1
      · exact length_digits_shortest _ hzero (significand_ofBits_lt _) h
      · rw [Style.writeFinite]
        simp only [hzero, if_false]
  obtain ⟨numeral, hnumeral, hsize⟩ := exists_sizeText_eq_write hd hpoint
  have hsigned := hnumeral.withSign (decide (x.toBits >>> 63 = 1))
  obtain ⟨y, hy⟩ := hsigned.exists_toJson_eq_float
  have hreads := reads_numeral hsigned.toIsWellFormed
  rw [hy] at hreads
  refine ⟨y, ?_⟩
  rw [hwrite, ← hsize]
  simpa only [Numeral.text, Numeral.sizeText, decide_eq_true_eq] using hreads

end Json

end LogQuery
