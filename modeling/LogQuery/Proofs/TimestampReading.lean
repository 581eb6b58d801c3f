import LogQuery.Proofs.Occurrence
import LogQuery.Proofs.Pipelines
import LogQuery.Proofs.TimestampText
import LogQuery.Proofs.Trimming

/-!
# Reading written timestamps

Every written timestamp is read as what is written (`Written.timestamp?_text`). Its text is tried in
four forms, one after the other. It has the one that it was written in, and none of those before:
without an offset it is not in the Internet form, and a space is not the letter `T`. A condition on
the hour therefore sees the hour in UTC (`hourOfDay_reads_utc`).
-/

namespace LogQuery

open Text Decimal

namespace Time

/-! ## Numbers of a text -/

section Numbers

variable {least width n : Nat} {rest : List Char}

theorem isBlank_of_isDigit {c : Char} (h : isDigit c = true) : isBlank c = false := by
  have hc := digit_bounds h
  unfold isBlank blankRanges
  rw [inRanges, if_neg (by omega), if_neg (by omega), inRanges, if_neg (by omega),
    if_neg (by omega), inRanges, if_pos (by omega)]

theorem number?_padded_append (hleast : least ≤ width) (hwidth : 0 < width) (h : n < 10 ^ width) :
    number? least width (padded width n ++ rest) = some (n, rest) := by
  have hlength := length_padded hwidth h
  have hdigits : ((padded width n ++ rest).take width).takeWhile isDigit = padded width n := by
    rw [List.take_left' hlength, List.takeWhile_eq_self_iff]
    exact isDigit_of_mem_padded
  unfold number?
  dsimp only
  rw [hdigits, if_neg (by omega), digitsValue_padded, List.drop_left]

theorem number?_padded_two (h : n < 100) : number? 2 2 (padded 2 n ++ rest) = some (n, rest) :=
  number?_padded_append (by decide) (by decide) h

theorem number?_padded_four (h : n < 10000) : number? 4 4 (padded 4 n ++ rest) = some (n, rest) :=
  number?_padded_append (by decide) (by decide) h

theorem exists_padded_eq_cons (hwidth : 0 < width) (h : n < 10 ^ width) :
    ∃ c ds, padded width n = c :: ds ∧ isDigit c = true := by
  cases hpadded : padded width n with
  | nil =>
    have hlength := length_padded hwidth h
    rw [hpadded] at hlength
    exact absurd hlength hwidth.ne
  | cons c ds =>
    have hmem : c ∈ padded width n := by
      rw [hpadded]
      exact List.mem_cons_self
    exact ⟨c, ds, rfl, isDigit_of_mem_padded c hmem⟩

theorem padded_ne_nil (hwidth : 0 < width) (h : n < 10 ^ width) : padded width n ≠ [] := by
  obtain ⟨c, ds, hpadded, -⟩ := exists_padded_eq_cons hwidth h
  rw [hpadded]
  exact List.cons_ne_nil c ds

theorem trimStart_padded_append (hwidth : 0 < width) (h : n < 10 ^ width) :
    trimStart (padded width n ++ rest) = padded width n ++ rest := by
  obtain ⟨c, ds, hpadded, hc⟩ := exists_padded_eq_cons hwidth h
  rw [hpadded]
  exact trimStart_cons (isBlank_of_isDigit hc) _

theorem field?_padded_append (h : n < 100) :
    field? (padded 2 n ++ rest) = some (n, rest) := by
  unfold field?
  rw [trimStart_padded_append (by decide) h, number?_padded_append (by decide) (by decide) h]

theorem year?_padded_append (h : n < 10000) :
    year? (padded 4 n ++ rest) = some ((n : Int), rest) := by
  obtain ⟨c, ds, hpadded, hc⟩ : ∃ c ds, padded 4 n = c :: ds ∧ isDigit c = true :=
    exists_padded_eq_cons (by decide) h
  have hnumber : number? 1 4 (padded 4 n ++ rest) = some (n, rest) :=
    number?_padded_append (by decide) (by decide) h
  unfold year?
  rw [trimStart_padded_append (by decide) h]
  rw [hpadded, List.cons_append] at hnumber ⊢
  -- a digit is neither of the signs
  split
  · rename_i heq
    obtain ⟨rfl, -⟩ := List.cons_eq_cons.mp heq
    exact absurd hc (by decide)
  · rename_i heq
    obtain ⟨rfl, -⟩ := List.cons_eq_cons.mp heq
    exact absurd hc (by decide)
  · rw [hnumber]
    rfl

end Numbers

/-! ## Parts of a timestamp -/

section Parts

variable {rest zone : List Char}

/-- What a text does not begin with for a fraction of a second to end before it. -/
def EndsFraction (rest : List Char) : Prop := ∀ c ∈ rest.head?, isDigit c = false ∧ c ≠ '.'

theorem endsFraction_nil : EndsFraction [] := by
  intro c hc
  cases hc

theorem endsFraction_cons {c : Char} (h : isDigit c = false) (hpoint : c ≠ '.') :
    EndsFraction (c :: rest) := by
  intro d hd
  obtain rfl : c = d := Option.some_inj.mp hd
  exact ⟨h, hpoint⟩

theorem Clock.skipFraction?_append (c : Clock) (h : EndsFraction rest) :
    skipFraction? (c.fractionText ++ rest) = some rest := by
  unfold fractionText
  split
  · rw [List.nil_append]
    unfold skipFraction?
    split
    · exact absurd rfl (h '.' rfl).2
    · rfl
  · rename_i hne
    have hrun : run? isDigit (c.fraction ++ rest) = some (c.fraction, rest) :=
      run?_append hne c.isDigit_fraction fun d hd => (h d hd).1
    rw [List.cons_append, skipFraction?, hrun]
    rfl

/-- A step of a reader that gives a result leaves the steps after it to be taken. -/
theorem bind_of_eq_some {α β : Type} {x : Option α} {a : α} (h : x = some a) (f : α → Option β) :
    (x >>= f) = f a := by
  rw [h]
  rfl

/-- A written offset is read as minutes ahead of UTC. -/
theorem offset?_offsetText (ahead : Bool) (hours : Fin 24) (minutes : Fin 60) :
    offset? (offsetText ahead hours minutes) =
      some (if ahead then (hours * 60 + minutes : Int) else -(hours * 60 + minutes)) := by
  have hhours : number? 2 2 (padded 2 hours ++ ':' :: padded 2 minutes) =
      some (hours.val, ':' :: padded 2 minutes) := number?_padded_two (by omega)
  have hminutes : number? 2 2 (padded 2 minutes) = some (minutes.val, []) := by
    rw [← List.append_nil (padded 2 minutes)]
    exact number?_padded_two (by omega)
  have hcolon : after? [':'] (':' :: padded 2 minutes) = some (padded 2 minutes) := rfl
  unfold offsetText offset?
  cases ahead
  · simp [hhours, hminutes, hcolon]
  · simp [hhours, hminutes, hcolon]

/-- The timestamp of a date and a time of day. -/
def stampAt (d : Date) (c : Clock) (offset : Int) : Timestamp :=
  ⟨d.year, d.month, d.day, c.hour, c.minute, c.second, offset⟩

/-- The timestamp of the midnight that begins a date. -/
def Date.stamp (d : Date) : Timestamp := ⟨d.year, d.month, d.day, 0, 0, 0, 0⟩

/-- A date and a time of day are read with what their offset says. -/
theorem internet?_append (d : Date) (c : Clock) {separator : Char}
    (hseparator : separator = 'T' ∨ separator = ' ') (hzone : EndsFraction zone) :
    internet? (d.text ++ separator :: (c.text ++ zone)) = (offset? zone).map (stampAt d c) := by
  obtain ⟨hmonth, hday⟩ := isDate_bounds d.valid
  have hletter : separator = 'T' ∨ separator = 't' ∨ separator = ' ' := by tauto
  -- the steps of the reader, one after the other
  unfold internet? Date.text Clock.text
  simp only [List.append_assoc, List.cons_append]
  refine (bind_of_eq_some (number?_padded_four d.year_lt) _).trans ?_
  refine (bind_of_eq_some (after?_append ['-'] _) _).trans ?_
  refine (bind_of_eq_some (number?_padded_two hmonth) _).trans ?_
  refine (bind_of_eq_some (after?_append ['-'] _) _).trans ?_
  refine (bind_of_eq_some (number?_padded_two hday) _).trans ?_
  dsimp only
  rw [if_neg (not_not_intro hletter)]
  refine (bind_of_eq_some (number?_padded_two (c.hour_lt.trans (by decide))) _).trans ?_
  refine (bind_of_eq_some (after?_append [':'] _) _).trans ?_
  refine (bind_of_eq_some (number?_padded_two (c.minute_lt.trans (by decide))) _).trans ?_
  refine (bind_of_eq_some (after?_append [':'] _) _).trans ?_
  refine (bind_of_eq_some (number?_padded_two (c.second_lt.trans (by decide))) _).trans ?_
  refine (bind_of_eq_some (c.skipFraction?_append hzone) _).trans ?_
  rw [Option.map_eq_bind]
  rfl

theorem internet?_date (d : Date) : internet? d.text = none := by
  obtain ⟨hmonth, hday⟩ := isDate_bounds d.valid
  have hlast : number? 2 2 (padded 2 d.day) = some (d.day, []) := by
    rw [← List.append_nil (padded 2 d.day)]
    exact number?_padded_two hday
  unfold internet? Date.text
  refine (bind_of_eq_some (number?_padded_four d.year_lt) _).trans ?_
  refine (bind_of_eq_some (after?_append ['-'] _) _).trans ?_
  refine (bind_of_eq_some (number?_padded_two hmonth) _).trans ?_
  refine (bind_of_eq_some (after?_append ['-'] _) _).trans ?_
  exact bind_of_eq_some hlast _

theorem Date.date?_append (d : Date) (rest : List Char) :
    date? (d.text ++ rest) = some (d.stamp, rest) := by
  obtain ⟨hmonth, hday⟩ := isDate_bounds d.valid
  unfold date? text
  simp only [List.append_assoc, List.cons_append]
  refine (bind_of_eq_some (year?_padded_append d.year_lt) _).trans ?_
  refine (bind_of_eq_some (after?_append ['-'] _) _).trans ?_
  refine (bind_of_eq_some (field?_padded_append hmonth) _).trans ?_
  refine (bind_of_eq_some (after?_append ['-'] _) _).trans ?_
  exact bind_of_eq_some (field?_padded_append hday) _

/-- A date alone is read as the beginning of its day. -/
theorem dateOnly?_date (d : Date) : dateOnly? d.text = some d.stamp := by
  have hdate := d.date?_append []
  rw [List.append_nil] at hdate
  unfold dateOnly?
  rw [hdate]
  rfl

/-- Without an offset a timestamp is read as UTC. -/
theorem local?_append (d : Date) (c : Clock) {separator : List Char → Option (List Char)}
    (hseparator : separator rest = some c.text) :
    local? separator (d.text ++ rest) = some (stampAt d c 0) := by
  have hend : skipFraction? c.fractionText = some [] := by
    have hfraction := c.skipFraction?_append endsFraction_nil
    rwa [List.append_nil] at hfraction
  unfold Clock.text at hseparator
  unfold local?
  refine (bind_of_eq_some (d.date?_append rest) _).trans ?_
  refine (bind_of_eq_some hseparator _).trans ?_
  refine (bind_of_eq_some (field?_padded_append (c.hour_lt.trans (by decide))) _).trans ?_
  refine (bind_of_eq_some (after?_append [':'] _) _).trans ?_
  refine (bind_of_eq_some (field?_padded_append (c.minute_lt.trans (by decide))) _).trans ?_
  refine (bind_of_eq_some (after?_append [':'] _) _).trans ?_
  refine (bind_of_eq_some (field?_padded_append (c.second_lt.trans (by decide))) _).trans ?_
  exact bind_of_eq_some hend _

theorem local?_eq_none (d : Date) {separator : List Char → Option (List Char)}
    (hseparator : separator rest = none) : local? separator (d.text ++ rest) = none := by
  unfold local?
  refine (bind_of_eq_some (d.date?_append rest) _).trans ?_
  dsimp only
  rw [hseparator]
  rfl

theorem local?_date (d : Date) {separator : List Char → Option (List Char)}
    (hseparator : separator [] = some []) : local? separator d.text = none := by
  have hdate := d.date?_append []
  rw [List.append_nil] at hdate
  unfold local?
  refine (bind_of_eq_some hdate _).trans ?_
  exact bind_of_eq_some hseparator _

end Parts

/-! ## What is read -/

/-- The timestamp that is read. -/
def Written.stamp : Written → Timestamp
  | offset date clock ahead hours minutes =>
    stampAt date clock (if ahead then (hours * 60 + minutes : Int) else -(hours * 60 + minutes))
  | zulu date clock | plain date clock | spaced date clock => stampAt date clock 0
  | dateOnly date => date.stamp

/-- The hour that is read is the one in UTC. -/
theorem Written.utcHour_stamp (w : Written) : (w.stamp.utcHour : Int) = w.hour := by
  cases w with
  | offset date clock ahead hours minutes =>
    cases ahead
    · simp only [stamp, stampAt, Timestamp.utcHour, hour, Bool.false_eq_true, if_false]
      omega
    · simp only [stamp, stampAt, Timestamp.utcHour, hour, if_true]
      omega
  | zulu date clock | plain date clock | spaced date clock =>
    have hhour := clock.hour_lt
    have hminute := clock.minute_lt
    simp only [stamp, stampAt, Timestamp.utcHour, hour]
    omega
  | dateOnly date =>
    simp only [stamp, Date.stamp, Timestamp.utcHour, hour]
    omega

theorem Date.isKeptYear (d : Date) : isKeptYear d.year = true := by
  have hyear := d.year_lt
  unfold Time.isKeptYear
  rw [decide_eq_true_eq]
  omega

theorem valid_stampAt (d : Date) (c : Clock) (offset : Int) :
    (stampAt d c offset).valid = true := by
  have hsecond := c.second_lt
  simp only [Timestamp.valid, Bool.and_eq_true, decide_eq_true_eq]
  exact ⟨⟨⟨⟨d.isKeptYear, d.valid⟩, c.hour_lt⟩, c.minute_lt⟩, hsecond.le⟩

theorem Date.valid_stamp (d : Date) : d.stamp.valid = true := by
  simp only [Timestamp.valid, Bool.and_eq_true, decide_eq_true_eq]
  exact ⟨⟨⟨⟨d.isKeptYear, d.valid⟩, Nat.zero_lt_succ 23⟩, Nat.zero_lt_succ 59⟩, Nat.zero_le 60⟩

/-! ## Nothing to trim -/

theorem Clock.exists_tail (c : Clock) :
    ∃ front tail, c.text = front ++ tail ∧ tail ≠ [] ∧ ∀ x ∈ tail, isDigit x = true := by
  by_cases hnil : c.fraction = []
  · have hsecond : c.second < 10 ^ 2 := c.second_lt.trans (by decide)
    refine ⟨padded 2 c.hour ++ ':' :: (padded 2 c.minute ++ [':']), padded 2 c.second, ?_,
      padded_ne_nil (by decide) hsecond, isDigit_of_mem_padded⟩
    simp [text, fractionText, hnil]
  · refine ⟨padded 2 c.hour ++ ':' :: (padded 2 c.minute ++ ':' :: (padded 2 c.second ++ ['.'])),
      c.fraction, ?_, hnil, c.isDigit_fraction⟩
    simp [text, fractionText, hnil]

/-- A text that begins with a date and ends in characters that are not blank is not changed by
trimming. -/
theorem Date.trim_append (d : Date) (rest front : List Char) {tail : List Char} (hne : tail ≠ [])
    (hlast : ∀ c ∈ tail, isBlank c = false) (hs : d.text ++ rest = front ++ tail) :
    trim (d.text ++ rest) = d.text ++ rest := by
  refine trim_eq_self ?_ ?_
  · obtain ⟨x, ds, hpadded, hx⟩ : ∃ x ds, padded 4 d.year = x :: ds ∧ isDigit x = true :=
      exists_padded_eq_cons (by decide) d.year_lt
    intro c hc
    rw [text, hpadded] at hc
    obtain rfl : x = c := by simpa using hc
    exact isBlank_of_isDigit hx
  · intro c hc
    rw [hs, List.getLast?_append_of_ne_nil _ hne] at hc
    exact hlast c (List.mem_of_mem_getLast? hc)

/-- A written timestamp has no blank characters around it. -/
theorem Written.trim_text (w : Written) : trim w.text = w.text := by
  have hdigits : ∀ ds : List Char, (∀ x ∈ ds, isDigit x = true) → ∀ x ∈ ds, isBlank x = false := by
    intro ds hds x hx
    exact isBlank_of_isDigit (hds x hx)
  cases w with
  | offset date clock ahead hours minutes =>
    have hnumber := hdigits (padded 2 minutes) isDigit_of_mem_padded
    refine date.trim_append _ (date.text ++ 'T' :: (clock.text ++ (if ahead then '+' else '-') ::
      (padded 2 hours ++ [':']))) (padded_ne_nil (by decide) (by omega)) hnumber ?_
    simp [offsetText]
  | zulu date clock =>
    have hletter : ∀ c ∈ ['Z'], isBlank c = false := by decide
    refine date.trim_append _ (date.text ++ 'T' :: clock.text) (List.cons_ne_nil _ _) hletter ?_
    simp
  | plain date clock =>
    obtain ⟨front, tail, htext, hne, htail⟩ := clock.exists_tail
    refine date.trim_append _ (date.text ++ 'T' :: front) hne (hdigits tail htail) ?_
    simp [htext]
  | spaced date clock =>
    obtain ⟨front, tail, htext, hne, htail⟩ := clock.exists_tail
    refine date.trim_append _ (date.text ++ ' ' :: front) hne (hdigits tail htail) ?_
    simp [htext]
  | dateOnly date =>
    have hnumber := hdigits (padded 2 date.day) isDigit_of_mem_padded
    have hday := (isDate_bounds date.valid).2
    have htrim := date.trim_append [] (padded 4 date.year ++ '-' :: (padded 2 date.month ++ ['-']))
      (padded_ne_nil (by decide) hday) hnumber (by simp [Date.text])
    rwa [List.append_nil] at htrim

/-! ## Whole timestamps -/

/-- Every written timestamp is read: the forms that come before its own one do not fit it. -/
theorem Written.timestamp?_text (w : Written) : timestamp? w.text = some w.stamp := by
  have hinternet : ∀ (d : Date) (c : Clock) (separator : Char),
      separator = 'T' ∨ separator = ' ' → internet? (d.text ++ separator :: c.text) = none := by
    intro d c separator hseparator
    have hread := internet?_append d c hseparator endsFraction_nil
    rw [List.append_nil] at hread
    exact hread
  have hvalid : ∀ (d : Date) (c : Clock) (offset : Int),
      (some (stampAt d c offset)).filter Timestamp.valid = some (stampAt d c offset) := by
    intro d c offset
    rw [Option.filter_some, if_pos (valid_stampAt d c offset)]
  -- each case shows the forms in the order in which they are tried
  unfold timestamp?
  rw [w.trim_text]
  cases w with
  | offset date clock ahead hours minutes =>
    have hzone : EndsFraction (offsetText ahead hours minutes) := by
      cases ahead
      · exact endsFraction_cons (by decide) (by decide)
      · exact endsFraction_cons (by decide) (by decide)
    have hread := internet?_append date clock (.inl rfl) hzone
    rw [offset?_offsetText, Option.map_some] at hread
    simp only [text, stamp, List.findSome?_cons, hread, hvalid]
  | zulu date clock =>
    have hzone : EndsFraction ['Z'] := endsFraction_cons (by decide) (by decide)
    have hoffset : offset? ['Z'] = some 0 := rfl
    have hread := internet?_append date clock (.inl rfl) hzone
    rw [hoffset, Option.map_some] at hread
    simp only [text, stamp, List.findSome?_cons, hread, hvalid]
  | plain date clock =>
    have hread : local? (after? ['T']) (date.text ++ 'T' :: clock.text) =
        some (stampAt date clock 0) := local?_append date clock rfl
    simp only [text, stamp, List.findSome?_cons, hinternet _ _ _ (.inl rfl), Option.filter_none,
      hread, hvalid]
  | spaced date clock =>
    have hletter : local? (after? ['T']) (date.text ++ ' ' :: clock.text) = none :=
      local?_eq_none date rfl
    have htrim : trimStart (' ' :: clock.text) = clock.text :=
      trimStart_padded_append (by decide) (clock.hour_lt.trans (by decide))
    have hread : local? (fun s => some (trimStart s)) (date.text ++ ' ' :: clock.text) =
        some (stampAt date clock 0) := local?_append date clock (congrArg some htrim)
    simp only [text, stamp, List.findSome?_cons, hinternet _ _ _ (.inr rfl), Option.filter_none,
      hletter, hread, hvalid]
  | dateOnly date =>
    have hletter : local? (after? ['T']) date.text = none := by
      rw [← List.append_nil date.text]
      exact local?_eq_none date rfl
    have hblank : local? (fun s => some (trimStart s)) date.text = none := local?_date date rfl
    have hdate : (some date.stamp).filter Timestamp.valid = some date.stamp := by
      rw [Option.filter_some, if_pos date.valid_stamp]
    simp only [text, stamp, List.findSome?_cons, internet?_date, Option.filter_none, hletter,
      hblank, dateOnly?_date, hdate]

end Time

namespace Condition

open Time

variable {record : Record} {field : String} {w : Written}

/-! ## Conditions on the hour -/

/-- The hour of a written timestamp is compared with the number as it is. -/
theorem holds_hourOfDay_text (h : Record.text record field = String.ofList w.text)
    (operator : HourOperator) (hour : Int) :
    (hourOfDay field operator hour).holds record = operator.holds w.hour hour := by
  rw [holds_hourOfDay, hourHolds, h, String.toList_ofList, w.timestamp?_text]
  show operator.holds w.stamp.utcHour hour = operator.holds w.hour hour
  rw [w.utcHour_stamp]

/-- A condition on the hour reads the hour in UTC, however the timestamp is written, so it does not
tell timestamps of the same instant apart. -/
theorem hourOfDay_reads_utc (h : Record.text record field = String.ofList w.text) :
    (∀ k : Int, (hourOfDay field .exactly k).holds record = true ↔ k = w.hour) ∧
    ∀ (record' : Record) (field' : String) (w' : Written),
      Record.text record' field' = String.ofList w'.text → w'.instant = w.instant →
      ∀ operator hour, (hourOfDay field' operator hour).holds record' =
        (hourOfDay field operator hour).holds record := by
  constructor
  · intro k
    rw [holds_hourOfDay_text h, HourOperator.holds, decide_eq_true_eq]
    exact eq_comm
  · intro record' field' w' h' hinstant operator hour
    rw [holds_hourOfDay_text h, holds_hourOfDay_text h', w.hour_eq, w'.hour_eq, hinstant]

/-- With a clock that is ahead of UTC the first of March begins on the leap day, and minutes are
borrowed from the hour. -/
theorem hourOfDay_reads_utc_leapDay :
    let row : Record := .ofPairs [("TimeGenerated", .string "2024-03-01T00:30:05.25+05:45")]
    let row' : Record := .ofPairs [("CreatedTime", .string "2024-02-29T18:45:05.250Z")]
    (∀ k : Int, (hourOfDay "TimeGenerated" .exactly k).holds row = true ↔ k = 18) ∧
    ∀ operator hour, (hourOfDay "CreatedTime" operator hour).holds row' =
      (hourOfDay "TimeGenerated" operator hour).holds row := by
  intro row row'
  let w : Written := .offset ⟨2024, 3, 1, by decide, by decide⟩
    ⟨0, 30, 5, "25".toList, by decide, by decide, by decide, by decide, by decide⟩ true 5 45
  let w' : Written := .zulu ⟨2024, 2, 29, by decide, by decide⟩
    ⟨18, 45, 5, "250".toList, by decide, by decide, by decide, by decide, by decide⟩
  have h : Record.text row "TimeGenerated" = String.ofList w.text := by decide +kernel
  have h' : Record.text row' "CreatedTime" = String.ofList w'.text := by decide +kernel
  have hhour : w.hour = 18 := by decide
  have hinstant : w'.instant = w.instant := by decide +kernel
  have hreads := hourOfDay_reads_utc h
  rw [hhour] at hreads
  exact ⟨hreads.1, hreads.2 row' "CreatedTime" w' h' hinstant⟩

end Condition

end LogQuery
