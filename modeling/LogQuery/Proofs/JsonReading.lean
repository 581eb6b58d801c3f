import LogQuery.Json.Parser
import LogQuery.Json.Printer
import LogQuery.Proofs.Numerals
import Mathlib.Data.List.Forall2

/-!
# Reading printed documents

What is printed is read back. A text reads as a document (`Reads`) when reading takes exactly this
text off the front of every longer one that does not go on with a number, and leaves a document
behind. The closure of this relation under arrays and objects allows any blank characters between
their marks, so the compact form (`reads_compact`) and the indented one (`reads_indented`) are both
instances of it.

The documents that are read back are those without floating-point numbers whose whole numbers fit
sixty-four bits (`IsExact`).
-/

namespace LogQuery.Json

open Text Decimal

variable {s gap gap' rest text : List Char} {texts : List (List Char)}

/-! ## Gaps -/

/-- A text that may stand between the marks of a document. -/
def IsGap (s : List Char) : Prop := ∀ c ∈ s, isSpace c = true

theorem isGap_nil : IsGap [] := List.forall_mem_nil _

theorem isGap_blank : IsGap [' '] := by simp [IsGap, isSpace]

theorem isGap_newline (level : Nat) : IsGap (newline level) := by
  intro c hc
  rcases List.mem_cons.mp hc with rfl | hc
  · rfl
  · rw [List.eq_of_mem_replicate hc]
    rfl

theorem skipSpace_append (h : IsGap gap) (s : List Char) :
    skipSpace (gap ++ s) = skipSpace s :=
  List.dropWhile_append_of_pos h

theorem skipSpace_cons {c : Char} (h : isSpace c = false) (s : List Char) :
    skipSpace (c :: s) = c :: s :=
  List.dropWhile_cons_of_neg (by simp [h])

/-- A gap in front of a document is skipped. -/
theorem value?_append_gap (h : IsGap gap) (calls : Nat) (s : List Char) :
    value? calls (gap ++ s) = value? calls s := by
  cases calls with
  | zero => rfl
  | succ calls => rw [value?, value?, skipSpace_append h]

theorem items?_append_gap (h : IsGap gap) (calls : Nat) (s : List Char) :
    items? calls (gap ++ s) = items? calls s := by
  cases calls with
  | zero => rfl
  | succ calls => rw [items?, items?, value?_append_gap h]

theorem members?_append_gap (h : IsGap gap) (calls : Nat) (s : List Char) :
    members? calls (gap ++ s) = members? calls s := by
  cases calls with
  | zero => rfl
  | succ calls => rw [members?, members?, skipSpace_append h]

/-! ## Strings -/

/-- The unit that a character is printed as. -/
def printedUnit (c : Char) : StringUnit :=
  if c.toNat < 0x20 ∧ c ∉ ['\x08', '\x0c', '\n', '\r', '\t'] then .code c.toNat else .char c

/-- A unit before what units and rest there are. -/
def consUnit (unit : StringUnit) (units : List StringUnit × List Char) :
    List StringUnit × List Char :=
  (unit :: units.1, units.2)

theorem stringUnits?_letter {letter c : Char} (h : escapedChar? letter = some c)
    (hletter : letter ≠ 'u') (s : List Char) :
    stringUnits? ('\\' :: letter :: s) = (stringUnits? s).map (consUnit (.char c)) := by
  rw [stringUnits?, h]
  · cases stringUnits? s <;> rfl
  · intro _ _ _ _ _ he
    exact absurd he hletter

theorem stringUnits?_code {n : Nat} {a b c d : Char} (h : codeUnit? a b c d = some n)
    (s : List Char) :
    stringUnits? ('\\' :: 'u' :: a :: b :: c :: d :: s) =
      (stringUnits? s).map (consUnit (.code n)) := by
  rw [stringUnits?, h]
  cases stringUnits? s <;> rfl

theorem stringUnits?_plain {c : Char} (hquote : c ≠ '"') (hescape : c ≠ '\\')
    (hcontrol : ¬ c.toNat < 0x20) (s : List Char) :
    stringUnits? (c :: s) = (stringUnits? s).map (consUnit (.char c)) := by
  rw [stringUnits?, if_neg hcontrol]
  · cases stringUnits? s <;> rfl
  · exact fun he => absurd he hquote
  · exact fun _ _ _ _ _ he => absurd he hescape
  · exact fun _ _ he => absurd he hescape

theorem codeUnit?_hexDigit : ∀ n < 0x20,
    codeUnit? '0' '0' (hexDigit (n / 16)) (hexDigit (n % 16)) = some n := by decide

/-- A printed character is read as the unit that it is printed as. -/
theorem stringUnits?_escape (c : Char) (s : List Char) :
    stringUnits? (escape c ++ s) = (stringUnits? s).map (consUnit (printedUnit c)) := by
  by_cases hshort : c ∈ ['"', '\\', '\x08', '\x0c', '\n', '\r', '\t']
  · simp only [List.mem_cons, List.not_mem_nil, or_false] at hshort
    rcases hshort with rfl | rfl | rfl | rfl | rfl | rfl | rfl
    all_goals exact stringUnits?_letter rfl (by decide) s
  · simp only [List.mem_cons, List.not_mem_nil, or_false, not_or] at hshort
    obtain ⟨hquote, hescape, hb, hf, hn, hr, ht⟩ := hshort
    simp only [escape, printedUnit, hquote, hescape, hb, hf, hn, hr, ht, if_false, List.mem_cons,
      List.not_mem_nil, or_false, not_false_eq_true, and_true]
    by_cases hcontrol : c.toNat < 0x20
    · rw [if_pos hcontrol, if_pos hcontrol]
      exact stringUnits?_code (codeUnit?_hexDigit _ hcontrol) s
    · rw [if_neg hcontrol, if_neg hcontrol]
      exact stringUnits?_plain hquote hescape hcontrol s

theorem stringUnits?_flatMap_escape (s rest : List Char) :
    stringUnits? (s.flatMap escape ++ '"' :: rest) = some (s.map printedUnit, rest) := by
  induction s with
  | nil => rfl
  | cons c s ih =>
    rw [List.flatMap_cons, List.append_assoc, stringUnits?_escape, ih]
    rfl

theorem unitsText?_code {n : Nat} (h : n < 0x20) (units : List StringUnit) :
    unitsText? (.code n :: units) = (unitsText? units).map (Char.ofNat n :: ·) := by
  have hhigh : isHighSurrogate n = false := by
    rw [isHighSurrogate, Bool.and_eq_false_iff, decide_eq_false_iff_not]
    exact .inl (by omega)
  have hlow : isLowSurrogate n = false := by
    rw [isLowSurrogate, Bool.and_eq_false_iff, decide_eq_false_iff_not]
    exact .inl (by omega)
  match units with
  | [] | .char _ :: _ | .code _ :: _ => simp [unitsText?, hhigh, hlow]

/-- The units that a text is printed as denote the text. -/
theorem unitsText?_map_printedUnit (s : List Char) :
    unitsText? (s.map printedUnit) = some s := by
  induction s with
  | nil => rfl
  | cons c s ih =>
    rw [List.map_cons, printedUnit]
    split_ifs with hcode
    · rw [unitsText?_code hcode.1, ih, Char.ofNat_toNat]
      rfl
    · rw [unitsText?, ih]
      rfl

/-- A text between quotation marks is taken off the front of any other text. -/
theorem stringRest?_flatMap_escape (s rest : List Char) :
    stringRest? (s.flatMap escape ++ '"' :: rest) = some (some (String.ofList s), rest) := by
  rw [stringRest?, stringUnits?_flatMap_escape]
  simp [unitsText?_map_printedUnit]

/-! ## Numbers -/

/-- A whole number of at most sixty-four bits is what its digits denote. -/
theorem toJson_wholeNumeral {n : Int} (hleast : -0x8000000000000000 ≤ n)
    (hgreatest : n ≤ 0xFFFFFFFFFFFFFFFF) :
    Numeral.toJson ⟨decide (n < 0), digits n.natAbs, [], none⟩ = .integer n := by
  have hfits : n.natAbs ≤ maxSignificand := by
    show n.natAbs ≤ 0xFFFFFFFFFFFFFFFF
    omega
  by_cases hneg : n < 0
  · simp only [Numeral.toJson, digitsValue_digits, List.isEmpty_nil, Option.isNone_none, hfits,
      decide_true, Bool.and_self, if_true, hneg, not_true_eq_false, if_false]
    rw [if_neg (by omega), if_pos (by omega)]
    congr 1
    omega
  · simp only [Numeral.toJson, digitsValue_digits, List.isEmpty_nil, Option.isNone_none, hfits,
      decide_true, Bool.and_self, if_true, hneg, decide_false, Bool.false_eq_true,
      not_false_eq_true]
    congr 1
    omega

/-! ## Texts that read as documents -/

/-- A text that reads as a document: it is taken off the front of every longer text that does not
go on with a number. -/
structure Reads (document : Json) (text : List Char) : Prop where
  /-- The text begins with a mark that no array ends with. -/
  starts : ∃ c ∈ text.head?, isSpace c = false ∧ c ≠ ']'
  /-- Two calls for each character are enough. -/
  value?_append : ∀ {calls : Nat} {rest : List Char}, 2 * text.length ≤ calls → Stops rest →
    value? calls (text ++ rest) = some (document, rest)

/-- The characters that numbers begin with. -/
def startsNumber (c : Char) : Bool := isDigit c || c = '-'

theorem notMem_of_startsNumber {c : Char} (h : startsNumber c = true) {marks : List Char}
    (hmarks : ∀ d ∈ marks, startsNumber d = false) : c ∉ marks :=
  fun hmem => Bool.false_ne_true ((hmarks c hmem).symm.trans h)

theorem isSpace_of_startsNumber {c : Char} (h : startsNumber c = true) : isSpace c = false := by
  have hmarks : c ∉ [' ', '\n', '\t', '\r'] := notMem_of_startsNumber h (by decide)
  simpa [isSpace, and_assoc] using hmarks

theorem value?_number {c : Char} (h : startsNumber c = true) (calls : Nat) (s : List Char) :
    value? (calls + 1) (c :: s) =
      (numeral? (c :: s)).map fun read => (read.1.toJson, read.2) := by
  have hmarks : c ∉ ['n', 't', 'f', '"', '[', '\x7b'] := notMem_of_startsNumber h (by decide)
  simp only [List.mem_cons, List.not_mem_nil, or_false, not_or] at hmarks
  obtain ⟨hn, ht, hf, hquote, harray, hobject⟩ := hmarks
  rw [value?, skipSpace_cons (isSpace_of_startsNumber h)]
  split
  · rename_i he
    exact absurd (List.cons.inj he).1 hn
  · rename_i he
    exact absurd (List.cons.inj he).1 ht
  · rename_i he
    exact absurd (List.cons.inj he).1 hf
  · rename_i he
    exact absurd (List.cons.inj he).1 hquote
  · rename_i he
    exact absurd (List.cons.inj he).1 harray
  · rename_i he
    exact absurd (List.cons.inj he).1 hobject
  · cases numeral? (c :: s) <;> rfl

theorem reads_null : Reads .null ['n', 'u', 'l', 'l'] where
  starts := ⟨'n', rfl, by decide⟩
  value?_append := by
    rintro (_ | calls) rest hcalls -
    · exact absurd hcalls (by decide)
    · rfl

theorem reads_boolean (b : Bool) : Reads (.boolean b) (leafText (.boolean b)) := by
  cases b with
  | false =>
    refine ⟨⟨'f', rfl, by decide⟩, ?_⟩
    rintro (_ | calls) rest hcalls -
    · exact absurd hcalls (by decide)
    · rfl
  | true =>
    refine ⟨⟨'t', rfl, by decide⟩, ?_⟩
    rintro (_ | calls) rest hcalls -
    · exact absurd hcalls (by decide)
    · rfl

theorem reads_string (s : String) : Reads (.string s) (quote s.toList) where
  starts := ⟨'"', rfl, by decide⟩
  value?_append := by
    rintro (_ | calls) rest hcalls -
    · exact absurd hcalls (by simp [quote])
    · have htext : quote s.toList ++ rest = '"' :: (s.toList.flatMap escape ++ '"' :: rest) := by
        simp [quote]
      rw [htext, value?, skipSpace_cons (by decide)]
      simp [stringRest?_flatMap_escape]

/-- A written numeral reads as the document that it denotes. -/
theorem reads_numeral {numeral : Numeral} (h : numeral.IsWellFormed) :
    Reads numeral.toJson numeral.text := by
  obtain ⟨c, ds, htext, hc⟩ : ∃ c ds, numeral.text = c :: ds ∧ startsNumber c = true := by
    rw [Numeral.text]
    split
    · exact ⟨'-', _, rfl, rfl⟩
    · obtain ⟨c, ds, hcons⟩ := List.exists_cons_of_ne_nil h.whole_ne_nil
      rw [Numeral.sizeText, hcons]
      refine ⟨c, _, rfl, ?_⟩
      rw [startsNumber, h.isDigit_whole c (hcons ▸ List.mem_cons_self)]
      rfl
  refine ⟨⟨c, ?_, isSpace_of_startsNumber hc, ?_⟩, ?_⟩
  · rw [htext]
    rfl
  · have hmark : c ∉ [']'] := notMem_of_startsNumber hc (by decide)
    simpa using hmark
  · rintro (_ | calls) rest hcalls hrest
    · rw [htext] at hcalls
      exact absurd hcalls (by simp)
    · have hread := Numeral.numeral?_text h hrest
      rw [htext, List.cons_append] at hread ⊢
      rw [value?_number hc, hread, Option.map_some]

/-- A whole number reads as itself when it fits sixty-four bits, signed or unsigned. -/
theorem reads_integer {n : Int} (hleast : -0x8000000000000000 ≤ n)
    (hgreatest : n ≤ 0xFFFFFFFFFFFFFFFF) : Reads (.integer n) (wholeText n) := by
  have hformed : Numeral.IsWellFormed ⟨decide (n < 0), digits n.natAbs, [], none⟩ := by
    refine ⟨digits_ne_nil _, fun hzero => ?_, fun c => isDigit_of_mem_digits,
      List.forall_mem_nil _, nofun⟩
    have hn : n.natAbs = 0 := by
      by_contra hne
      exact head?_digits hne hzero
    rw [hn]
    rfl
  have htext : Numeral.text ⟨decide (n < 0), digits n.natAbs, [], none⟩ = wholeText n := by
    rw [wholeText, Numeral.text]
    simp [Numeral.sizeText, Numeral.fractionText, Numeral.exponentText]
  rw [← toJson_wholeNumeral hleast hgreatest, ← htext]
  exact reads_numeral hformed

/-! ## Arrays and objects -/

theorem isNumberChar_of_isSpace {c : Char} (h : isSpace c = true) : isNumberChar c = false := by
  simp only [isSpace, Bool.or_eq_true, decide_eq_true_eq] at h
  rcases h with ((rfl | rfl) | rfl) | rfl <;> rfl

/-- No number goes on with a gap and a mark. -/
theorem stops_append {c : Char} (h : IsGap gap) (hc : isNumberChar c = false) :
    Stops (gap ++ c :: rest) := by
  intro d hd
  cases gap with
  | nil =>
    obtain rfl : c = d := Option.some_inj.mp hd
    exact hc
  | cons x gap =>
    obtain rfl : x = d := Option.some_inj.mp hd
    exact isNumberChar_of_isSpace (h x List.mem_cons_self)

theorem stops_cons {c : Char} (hc : isNumberChar c = false) : Stops (c :: rest) :=
  stops_append isGap_nil hc

theorem skipSpace_append_cons {c : Char} (h : IsGap gap) (hc : isSpace c = false)
    (s : List Char) : skipSpace (gap ++ c :: s) = c :: s := by
  rw [skipSpace_append h, skipSpace_cons hc]

/-- Texts between marks, separated by commas, with gaps after all marks but the last one and a gap
before that one. -/
def enclosed (opening closing : Char) (gap gap' : List Char) (texts : List (List Char)) :
    List Char :=
  opening :: (gap ++ (joined (',' :: gap) texts ++ (gap' ++ [closing])))

theorem exists_joined_eq_cons (sep : List Char) (texts : List (List Char)) {c : Char}
    (h : c ∈ text.head?) : ∃ tail, joined sep (text :: texts) = c :: tail := by
  obtain ⟨tail, rfl⟩ : ∃ tail, text = c :: tail := List.head?_eq_some_iff.mp h
  cases texts with
  | nil => exact ⟨tail, rfl⟩
  | cons text' texts => exact ⟨tail ++ sep ++ joined sep (text' :: texts), rfl⟩

/-- The items of an array are read up to its closing bracket. -/
theorem items?_joined (hgap : IsGap gap) (hgap' : IsGap gap') {items : List Json}
    (h : List.Forall₂ Reads items texts) (hne : items ≠ []) {calls : Nat} {rest : List Char}
    (hcalls : 2 * (joined (',' :: gap) texts).length + 1 ≤ calls) :
    items? calls (joined (',' :: gap) texts ++ (gap' ++ ']' :: rest)) = some (items, rest) := by
  induction h generalizing calls with
  | nil => exact absurd rfl hne
  | @cons item text items texts hitem hitems ih =>
    obtain ⟨calls, rfl⟩ : ∃ n, calls = n + 1 := ⟨calls - 1, by omega⟩
    cases hitems with
    | nil =>
      rw [joined, items?, hitem.value?_append (by simpa [joined] using hcalls)
        (stops_append hgap' rfl)]
      simp only [Option.bind_eq_bind, Option.bind_some,
        skipSpace_append_cons hgap' (c := ']') rfl, Option.pure_def]
    | @cons item' text' items' texts' hitem' hitems' =>
      have htext : joined (',' :: gap) (text :: text' :: texts') =
          text ++ ',' :: (gap ++ joined (',' :: gap) (text' :: texts')) := by
        simp [joined]
      rw [htext, List.length_append, List.length_cons, List.length_append] at hcalls
      have hrest := @ih (List.cons_ne_nil _ _) calls (by omega)
      rw [htext, List.append_assoc, List.cons_append, List.append_assoc, items?,
        hitem.value?_append (by omega) (stops_cons rfl)]
      simp only [Option.bind_eq_bind, Option.bind_some, skipSpace_cons (c := ',') rfl,
        items?_append_gap hgap, hrest, Option.pure_def]

/-- Items between brackets read as an array. -/
theorem reads_array (hgap : IsGap gap) (hgap' : IsGap gap') {items : List Json}
    (h : List.Forall₂ Reads items texts) :
    Reads (.array items) (enclosed '[' ']' gap gap' texts) where
  starts := ⟨'[', rfl, by decide⟩
  value?_append := by
    rintro (_ | calls) rest hcalls -
    · exact absurd hcalls (by simp [enclosed])
    · have htext : enclosed '[' ']' gap gap' texts ++ rest =
          '[' :: (gap ++ (joined (',' :: gap) texts ++ (gap' ++ ']' :: rest))) := by
        simp [enclosed]
      rw [htext, value?, skipSpace_cons (c := '[') rfl]
      simp only [skipSpace_append hgap]
      cases h with
      | nil =>
        simp only [joined, List.nil_append, skipSpace_append_cons hgap' (c := ']') rfl]
      | @cons item text items texts hitem hitems =>
        obtain ⟨c, hc, hspace, hmark⟩ := hitem.starts
        obtain ⟨tail, htail⟩ := exists_joined_eq_cons (',' :: gap) texts hc
        have hread : items? calls (joined (',' :: gap) (text :: texts) ++ (gap' ++ ']' :: rest)) =
            some (item :: items, rest) := by
          refine items?_joined hgap hgap' (.cons hitem hitems) (List.cons_ne_nil _ _) ?_
          simp only [enclosed, List.length_cons, List.length_append] at hcalls
          omega
        rw [htail, List.cons_append] at hread ⊢
        rw [skipSpace_cons hspace]
        split
        · rename_i he
          exact absurd (List.cons.inj he).1 hmark
        · rw [hread]
          rfl

/-- A text that reads as a member of an object. -/
def ReadsMember (member : String × Json) (text : List Char) : Prop :=
  ∃ gap value, IsGap gap ∧ Reads member.2 value ∧
    text = quote member.1.toList ++ ':' :: (gap ++ value)

/-- A member is taken off the front of what its object goes on with, be it a comma or the end. -/
theorem members?_append {member : String × Json} (h : ReadsMember member text) {calls : Nat}
    (hcalls : 2 * text.length ≤ calls) (hrest : Stops rest) :
    members? (calls + 1) (text ++ rest) =
      match skipSpace rest with
      | ',' :: rest =>
        (members? calls rest).map fun read => ((some member.1, member.2) :: read.1, read.2)
      | '\x7d' :: rest => some ([(some member.1, member.2)], rest)
      | _ => none := by
  obtain ⟨gap, value, hgap, hvalue, rfl⟩ := h
  have htext : quote member.1.toList ++ ':' :: (gap ++ value) ++ rest =
      '"' :: (member.1.toList.flatMap escape ++ '"' :: ':' :: (gap ++ (value ++ rest))) := by
    simp [quote]
  have hread : value? calls (gap ++ (value ++ rest)) = some (member.2, rest) := by
    rw [value?_append_gap hgap]
    refine hvalue.value?_append ?_ hrest
    simp only [List.length_append, List.length_cons] at hcalls
    omega
  rw [htext]
  simp only [members?, skipSpace_cons (c := '"') rfl, stringRest?_flatMap_escape,
    Option.bind_eq_bind, Option.bind_some, skipSpace_cons (c := ':') rfl, hread,
    String.ofList_toList]
  generalize skipSpace rest = next
  rcases next with _ | ⟨c, tail⟩
  · rfl
  · by_cases hcomma : c = ','
    · subst hcomma
      show (members? calls tail).bind _ = (members? calls tail).map _
      cases members? calls tail <;> rfl
    · by_cases hbrace : c = '\x7d'
      · subst hbrace
        rfl
      · simp [hcomma, hbrace]

/-- The members of an object are read up to its closing brace. -/
theorem members?_joined (hgap : IsGap gap) (hgap' : IsGap gap') {members : List (String × Json)}
    (h : List.Forall₂ ReadsMember members texts) (hne : members ≠ []) {calls : Nat}
    {rest : List Char} (hcalls : 2 * (joined (',' :: gap) texts).length + 1 ≤ calls) :
    members? calls (joined (',' :: gap) texts ++ (gap' ++ '\x7d' :: rest)) =
      some (members.map fun member => (some member.1, member.2), rest) := by
  induction h generalizing calls with
  | nil => exact absurd rfl hne
  | @cons member text members texts hmember hmembers ih =>
    obtain ⟨calls, rfl⟩ : ∃ n, calls = n + 1 := ⟨calls - 1, by omega⟩
    cases hmembers with
    | nil =>
      rw [joined, members?_append hmember (by simpa [joined] using hcalls)
        (stops_append hgap' rfl), skipSpace_append_cons hgap' (c := '\x7d') rfl]
      rfl
    | @cons member' text' members' texts' hmember' hmembers' =>
      have htext : joined (',' :: gap) (text :: text' :: texts') =
          text ++ ',' :: (gap ++ joined (',' :: gap) (text' :: texts')) := by
        simp [joined]
      rw [htext, List.length_append, List.length_cons, List.length_append] at hcalls
      have hrest := @ih (List.cons_ne_nil _ _) calls (by omega)
      rw [htext, List.append_assoc, List.cons_append, members?_append hmember (by omega)
        (stops_cons rfl), skipSpace_cons (c := ',') rfl,
        List.append_assoc]
      simp only [members?_append_gap hgap, hrest, Option.map_some, List.map_cons]

theorem mapM_map_some {named : Option String × Json → Option (String × Json)}
    (h : ∀ member : String × Json, named (some member.1, member.2) = some member)
    (members : List (String × Json)) :
    (members.map fun member => (some member.1, member.2)).mapM named = some members := by
  induction members with
  | nil => rfl
  | cons member members ih => simp [h, ih]

theorem objectOf_map_some (members : List (String × Json)) :
    objectOf (members.map fun member => (some member.1, member.2)) = .object members := by
  rw [objectOf, mapM_map_some fun _ => rfl]

/-- Members between braces read as an object. -/
theorem reads_object (hgap : IsGap gap) (hgap' : IsGap gap') {members : List (String × Json)}
    (h : List.Forall₂ ReadsMember members texts) :
    Reads (.object members) (enclosed '\x7b' '\x7d' gap gap' texts) where
  starts := ⟨'\x7b', rfl, by decide⟩
  value?_append := by
    rintro (_ | calls) rest hcalls -
    · exact absurd hcalls (by simp [enclosed])
    · have htext : enclosed '\x7b' '\x7d' gap gap' texts ++ rest =
          '\x7b' :: (gap ++ (joined (',' :: gap) texts ++ (gap' ++ '\x7d' :: rest))) := by
        simp [enclosed]
      rw [htext, value?, skipSpace_cons (c := '\x7b') rfl]
      simp only [skipSpace_append hgap]
      cases h with
      | nil =>
        simp only [joined, List.nil_append, skipSpace_append_cons hgap' (c := '\x7d') rfl]
      | @cons member text members texts hmember hmembers =>
        have hquote : '"' ∈ text.head? := by
          obtain ⟨_, _, -, -, rfl⟩ := hmember
          rfl
        obtain ⟨tail, htail⟩ := exists_joined_eq_cons (',' :: gap) texts hquote
        have hread : members? calls (joined (',' :: gap) (text :: texts) ++
            (gap' ++ '\x7d' :: rest)) =
              some ((member :: members).map fun member => (some member.1, member.2), rest) := by
          refine members?_joined hgap hgap' (.cons hmember hmembers) (List.cons_ne_nil _ _) ?_
          simp only [enclosed, List.length_cons, List.length_append] at hcalls
          omega
        rw [htail, List.cons_append] at hread ⊢
        rw [skipSpace_cons (c := '"') rfl]
        show (members? calls _).bind _ = _
        rw [hread]
        exact congrArg (fun document => some (document, rest)) (objectOf_map_some _)

/-! ## Printing and reading -/

/-- The documents that are read back from their text: those without floating-point numbers and
meaningless parts whose whole numbers fit sixty-four bits. -/
inductive IsExact : Json → Prop where
  | null : IsExact .null
  | boolean (b : Bool) : IsExact (.boolean b)
  /-- A whole number of sixty-four bits, signed or unsigned. -/
  | integer {n : Int} (hleast : -0x8000000000000000 ≤ n) (hgreatest : n ≤ 0xFFFFFFFFFFFFFFFF) :
    IsExact (.integer n)
  | string (s : String) : IsExact (.string s)
  | array {items : List Json} (h : ∀ item ∈ items, IsExact item) : IsExact (.array items)
  | object {members : List (String × Json)} (h : ∀ member ∈ members, IsExact member.2) :
    IsExact (.object members)

theorem compactItems_eq_map (items : List Json) : compactItems items = items.map compact := by
  induction items with
  | nil => rfl
  | cons item items ih => rw [compactItems, ih, List.map_cons]

theorem compactMembers_eq_map (members : List (String × Json)) :
    compactMembers members =
      members.map fun member => quote member.1.toList ++ ':' :: compact member.2 := by
  induction members with
  | nil => rfl
  | cons member members ih => rw [compactMembers, ih, List.map_cons]

theorem indentedItems_eq_map (level : Nat) (items : List Json) :
    indentedItems level items = items.map (indented level) := by
  induction items with
  | nil => rfl
  | cons item items ih => rw [indentedItems, ih, List.map_cons]

theorem indentedMembers_eq_map (level : Nat) (members : List (String × Json)) :
    indentedMembers level members =
      members.map fun member => quote member.1.toList ++ ':' :: ' ' :: indented level member.2 := by
  induction members with
  | nil => rfl
  | cons member members ih => rw [indentedMembers, ih, List.map_cons]

/-- An indented array or object has gaps, unless it is empty. -/
theorem bracketed_eq_enclosed (level : Nat) (opening closing : Char) (texts : List (List Char)) :
    bracketed level opening closing texts =
      if texts = [] then enclosed opening closing [] [] []
      else enclosed opening closing (newline (level + 1)) (newline level) texts := by
  cases texts with
  | nil => rfl
  | cons text texts => simp [bracketed, enclosed]

theorem reads_compact_array {items : List Json} (h : ∀ item ∈ items, Reads item item.compact) :
    Reads (.array items) (compact (.array items)) := by
  rw [compact, compactItems_eq_map]
  refine reads_array isGap_nil isGap_nil ?_
  rw [List.forall₂_map_right_iff, List.forall₂_same]
  exact h

/-- An object of documents whose compact texts read as others reads as the object of those. -/
theorem reads_compact_object {written members : List (String × Json)}
    (h : List.Forall₂ (fun member member' => member.1 = member'.1 ∧
      Reads member.2 member'.2.compact) members written) :
    Reads (.object members) (compact (.object written)) := by
  rw [compact, compactMembers_eq_map]
  refine reads_object isGap_nil isGap_nil ?_
  rw [List.forall₂_map_right_iff]
  exact h.imp fun member member' hmember => ⟨[], _, isGap_nil, hmember.2, by rw [hmember.1]; rfl⟩

/-- A compact text is read back. -/
theorem reads_compact {document : Json} (h : IsExact document) :
    Reads document document.compact := by
  induction h with
  | null => exact reads_null
  | boolean b => exact reads_boolean b
  | integer hleast hgreatest => exact reads_integer hleast hgreatest
  | string s => exact reads_string s
  | array _ ih => exact reads_compact_array ih
  | object _ ih =>
    exact reads_compact_object
      (List.forall₂_same.mpr fun member hmember => ⟨rfl, ih member hmember⟩)

theorem reads_indented_array {items : List Json} (level : Nat)
    (h : ∀ item ∈ items, Reads item (item.indented (level + 1))) :
    Reads (.array items) (indented level (.array items)) := by
  rw [indented, indentedItems_eq_map, bracketed_eq_enclosed]
  split
  next hnil =>
    rw [List.map_eq_nil_iff] at hnil
    subst hnil
    exact reads_array isGap_nil isGap_nil .nil
  next =>
    refine reads_array (isGap_newline _) (isGap_newline _) ?_
    rw [List.forall₂_map_right_iff, List.forall₂_same]
    exact h

theorem reads_indented_object {written members : List (String × Json)} (level : Nat)
    (h : List.Forall₂ (fun member member' => member.1 = member'.1 ∧
      Reads member.2 (member'.2.indented (level + 1))) members written) :
    Reads (.object members) (indented level (.object written)) := by
  rw [indented, indentedMembers_eq_map, bracketed_eq_enclosed]
  split
  next hnil =>
    rw [List.map_eq_nil_iff] at hnil
    subst hnil
    cases h
    exact reads_object isGap_nil isGap_nil .nil
  next =>
    refine reads_object (isGap_newline _) (isGap_newline _) ?_
    rw [List.forall₂_map_right_iff]
    exact h.imp fun member member' hmember =>
      ⟨[' '], _, isGap_blank, hmember.2, by rw [hmember.1]; rfl⟩

/-- An indented text is read back, whatever its level. -/
theorem reads_indented {document : Json} (h : IsExact document) (level : Nat) :
    Reads document (document.indented level) := by
  induction h generalizing level with
  | null => exact reads_null
  | boolean b => exact reads_boolean b
  | integer hleast hgreatest => exact reads_integer hleast hgreatest
  | string s => exact reads_string s
  | array _ ih => exact reads_indented_array level fun item hitem => ih item hitem _
  | object _ ih =>
    exact reads_indented_object level
      (List.forall₂_same.mpr fun member hmember => ⟨rfl, ih member hmember _⟩)

theorem Reads.parse? {document : Json} (h : Reads document text) :
    parse? text = some document := by
  have hread : value? (2 * text.length + 2) (text ++ []) = some (document, []) :=
    h.value?_append (by omega) nofun
  rw [List.append_nil] at hread
  rw [Json.parse?, hread]
  rfl

/-- The bytes of a text denote what the text denotes. -/
theorem ofBytes?_toUTF8 (text : String) : ofBytes? text.toUTF8 = parse? text.toList := by
  rw [ofBytes?, fromUTF8?_toUTF8]

/-- The bytes of a text that reads as a document denote the document. -/
theorem Reads.ofBytes? {document : Json} (h : Reads document text) :
    ofBytes? (String.ofList text).toUTF8 = some document := by
  rw [ofBytes?_toUTF8, String.toList_ofList, h.parse?]

end LogQuery.Json
