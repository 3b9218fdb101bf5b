import MenuHost.Proofs.Text.Split
import MenuHost.Proofs.Time.Calendar

/-!
# Dates of cookies, read back

A reader for the dates that cookies carry, written from the format and
not from the writer: fields between spaces, numbers of two digits, a
year of four or with a sign, and a weekday that must be that of the
date. A date names a second, and the reader returns when that second
begins; the sixtieth second of a minute is a leap second and begins
where the nanoseconds of the one before run over. `readDate?_text` shows
that every timestamp is read back to its own second, so its text names
that second and no other.

`isDateChar_of_mem_text` bounds the characters of any date, leap seconds
included: none of them can end a cookie attribute or break a header.
-/

namespace MenuHost.Time

/-! ## The reader -/

/-- The number that decimal digits stand for, if there are `width` of them. -/
def readNumber? (width : Nat) (cs : List Char) : Option Nat :=
  if cs.length = width ∧ cs.all Char.isDigit then some (Nat.ofDigitChars 10 cs 0) else none

/-- A year: four digits, or a sign and at least four. -/
def readYear? (cs : List Char) : Option Int :=
  match cs with
  | '+' :: digits => if 4 ≤ digits.length then (readNumber? digits.length digits).map (↑) else none
  | '-' :: digits =>
    if 4 ≤ digits.length then (readNumber? digits.length digits).map (-↑·) else none
  | digits => (readNumber? 4 digits).map (↑)

def readMonth? (cs : List Char) : Option Nat :=
  (Date.monthNames.findIdx? fun name => name.toList = cs).map (· + 1)

/-- The second of the day, and whether it is the leap second after it that is meant. -/
def readClock? (cs : List Char) : Option (Nat × Bool) :=
  match cs.splitOn ':' with
  | [hour, minute, second] => do
    let h ← readNumber? 2 hour
    let m ← readNumber? 2 minute
    let s ← readNumber? 2 second
    if h < 24 ∧ m < 60 ∧ s ≤ 60 then some (3600 * h + 60 * m + min s 59, decide (s = 60))
    else none
  | _ => none

/-- The beginning of the second that a date names. -/
def readDate? (cs : List Char) : Option Timestamp :=
  match cs.splitOn ' ' with
  | [weekday, day, month, year, clock, zone] => do
    let date : Date := ⟨← readYear? year, ← readMonth? month, ← readNumber? 2 day⟩
    let (second, leap) ← readClock? clock
    let name := Date.weekdayNames.getD (Date.weekday date.toDay) ""
    if date.isValid ∧ weekday = name.toList ++ [','] ∧ zone = "GMT".toList then
      some ⟨secondsPerDay * date.toDay + second, if leap then nanosPerSecond else 0⟩
    else none
  | _ => none

/-! ## Seconds -/

namespace Timestamp

/-- The beginning of the second of a timestamp. -/
def floor (t : Timestamp) : Timestamp :=
  ⟨t.secs, if nanosPerSecond ≤ t.nanos then nanosPerSecond else 0⟩

/-- A timestamp lies in the second that begins at another. -/
def InSecond (begins t : Timestamp) : Prop :=
  ¬t < begins ∧ t < ⟨begins.secs, begins.nanos + nanosPerSecond⟩

theorem inSecond_floor {t : Timestamp} (ht : nanosFit t.secs t.nanos = true) :
    InSecond t.floor t := by
  simp only [nanosFit, Bool.or_eq_true, Bool.and_eq_true, decide_eq_true_eq] at ht
  simp only [InSecond, lt_iff, floor, Int.lt_irrefl, true_and, false_or]
  split <;> omega

theorem InSecond.lt_of_lt {begins t now : Timestamp} (h : InSecond begins t)
    (hnow : now < begins) : now < t := by
  simp only [InSecond, lt_iff] at h hnow ⊢
  omega

theorem InSecond.not_lt_of_not_lt {begins t now : Timestamp} (h : InSecond begins t)
    (hnow : ¬now < ⟨begins.secs, begins.nanos + nanosPerSecond⟩) : ¬now < t := by
  simp only [InSecond, lt_iff] at h hnow ⊢
  omega

end Timestamp

/-! ## Numbers -/

theorem toList_padded (width n : Nat) :
    (padded width n).toList =
      List.replicate (width - (Nat.toDigits 10 n).length) '0' ++ Nat.toDigits 10 n := by
  simp [padded, Nat.repr_eq_ofList_toDigits]

theorem isDigit_of_mem_padded {width n : Nat} {c : Char} (h : c ∈ (padded width n).toList) :
    c.isDigit = true := by
  rw [toList_padded] at h
  rcases List.mem_append.mp h with h | h
  · obtain rfl := List.eq_of_mem_replicate h
    rfl
  · exact Nat.isDigit_of_mem_toDigits (by decide) (by decide) h

theorem length_padded {width n : Nat} :
    (padded width n).toList.length = max width (Nat.toDigits 10 n).length := by
  rw [toList_padded, List.length_append, List.length_replicate]
  omega

theorem length_padded_of_lt (width n : Nat) (hwidth : 0 < width) (hn : n < 10 ^ width) :
    (padded width n).toList.length = width := by
  have hlen := (Nat.length_toDigits_le_iff (b := 10) (by decide) hwidth).mpr hn
  rw [length_padded]
  omega

/-- Digits are read back, leading zeros or not. -/
theorem readNumber?_padded {width n length : Nat} (h : (padded width n).toList.length = length) :
    readNumber? length (padded width n).toList = some n := by
  have hdigits : (padded width n).toList.all Char.isDigit = true :=
    List.all_eq_true.mpr fun c hc => isDigit_of_mem_padded hc
  have hvalue : Nat.ofDigitChars 10 (padded width n).toList 0 = n := by
    rw [toList_padded, Nat.ofDigitChars_append, Nat.ofDigitChars_replicate_zero, Nat.mul_zero,
      Nat.ofDigitChars_ten_toDigits]
  rw [readNumber?, if_pos ⟨h, hdigits⟩, hvalue]

theorem readYear?_yearText (year : Int) : readYear? (yearText year).toList = some year := by
  unfold yearText
  by_cases hplain : 0 ≤ year ∧ year ≤ 9999
  · have hlen := length_padded_of_lt 4 year.toNat (by decide) (by omega)
    have hread := readNumber?_padded hlen
    have hdigit : ∀ c ∈ (padded 4 year.toNat).toList, c.isDigit = true :=
      fun c hc => isDigit_of_mem_padded hc
    rw [if_pos hplain]
    -- the first digit is no sign
    unfold readYear?
    split
    · next digits heq => simp [heq] at hdigit
    · next digits heq => simp [heq] at hdigit
    · rw [hread]
      simp [hplain.1]
  · have hlen : 4 ≤ (padded 4 year.natAbs).toList.length := by
      rw [length_padded]
      omega
    have hread := readNumber?_padded (rfl : (padded 4 year.natAbs).toList.length = _)
    rw [if_neg hplain]
    by_cases hneg : year < 0
    · have hval : -((year.natAbs : Nat) : Int) = year := by omega
      simp only [if_pos hneg, String.toList_append]
      show readYear? ('-' :: (padded 4 year.natAbs).toList) = _
      rw [readYear?, if_pos hlen, hread, Option.map_some, hval]
    · have hval : ((year.natAbs : Nat) : Int) = year := by omega
      simp only [if_neg hneg, String.toList_append]
      show readYear? ('+' :: (padded 4 year.natAbs).toList) = _
      rw [readYear?, if_pos hlen, hread, Option.map_some, hval]

/-! ## Names -/

theorem readMonth?_monthName {month : Nat} (h1 : 1 ≤ month) (h12 : month ≤ 12) :
    readMonth? (Date.monthNames.getD (month - 1) "").toList = some month := by
  interval_cases month <;> decide

theorem weekday_lt (day : Int) : Date.weekday day < 7 := by
  unfold Date.weekday
  omega

/-! ## The characters of a date -/

/-- Letters, digits and the marks between the fields. -/
def isDateChar (c : Char) : Bool :=
  c.isAlphanum || c == ',' || c == ' ' || c == ':' || c == '+' || c == '-'

theorem isDateChar_of_isDigit {c : Char} (h : c.isDigit = true) : isDateChar c = true := by
  simp [isDateChar, Char.isAlphanum, h]

theorem isAlpha_of_mem_weekdayName {i : Nat} {c : Char} (hi : i < 7)
    (h : c ∈ (Date.weekdayNames.getD i "").toList) : c.isAlpha = true := by
  have hall : ∀ i < 7, (Date.weekdayNames.getD i "").toList.all Char.isAlpha = true := by decide
  exact List.all_eq_true.mp (hall i hi) c h

theorem isAlpha_of_mem_monthName {i : Nat} {c : Char}
    (h : c ∈ (Date.monthNames.getD i "").toList) : c.isAlpha = true := by
  by_cases hi : i < 12
  · have hall : ∀ i < 12, (Date.monthNames.getD i "").toList.all Char.isAlpha = true := by decide
    exact List.all_eq_true.mp (hall i hi) c h
  · have hnone : Date.monthNames.getD i "" = "" := by
      rw [List.getD_eq_getElem?_getD, List.getElem?_eq_none (Nat.le_of_not_lt hi)]
      rfl
    rw [hnone] at h
    cases h

/-- A year is digits, perhaps after a sign. -/
theorem mem_yearText {year : Int} {c : Char} (h : c ∈ (yearText year).toList) :
    c.isDigit = true ∨ c = '-' ∨ c = '+' := by
  unfold yearText at h
  split at h
  · exact Or.inl (isDigit_of_mem_padded h)
  · rw [String.toList_append] at h
    rcases List.mem_append.mp h with h | h
    · split at h
      · exact Or.inr (Or.inl (List.mem_singleton.mp h))
      · exact Or.inr (Or.inr (List.mem_singleton.mp h))
    · exact Or.inl (isDigit_of_mem_padded h)

/-- A time of day is digits between colons. -/
theorem mem_clockText {second : Nat} {leap : Bool} {c : Char}
    (h : c ∈ (clockText second leap).toList) : c.isDigit = true ∨ c = ':' := by
  simp only [clockText, String.toList_append, List.mem_append] at h
  rcases h with (((h | h) | h) | h) | h
  · exact Or.inl (isDigit_of_mem_padded h)
  · exact Or.inr (List.mem_singleton.mp h)
  · exact Or.inl (isDigit_of_mem_padded h)
  · exact Or.inr (List.mem_singleton.mp h)
  · exact Or.inl (isDigit_of_mem_padded h)

/-- The date and the name of the weekday of a timestamp, and its time of day. -/
theorem toList_text (t : Timestamp) :
    t.text.toList =
      (Date.weekdayNames.getD (Date.weekday (t.secs / secondsPerDay)) "").toList ++ [',']
      ++ ' ' :: ((padded 2 (Date.ofDay (t.secs / secondsPerDay)).day).toList
      ++ ' ' :: ((Date.monthNames.getD ((Date.ofDay (t.secs / secondsPerDay)).month - 1) "").toList
      ++ ' ' :: ((yearText (Date.ofDay (t.secs / secondsPerDay)).year).toList
      ++ ' ' :: ((clockText (t.secs % secondsPerDay).toNat (nanosPerSecond ≤ t.nanos)).toList
      ++ ' ' :: "GMT".toList)))) := by
  simp [Timestamp.text]

/-- No date holds anything but letters, digits and marks between fields. -/
theorem isDateChar_of_mem_text {t : Timestamp} {c : Char} (h : c ∈ t.text.toList) :
    isDateChar c = true := by
  rw [toList_text] at h
  simp only [List.mem_append, List.mem_cons, List.not_mem_nil, or_false] at h
  have hname : c.isAlpha = true → isDateChar c = true := fun h => by
    simp [isDateChar, Char.isAlphanum, h]
  rcases h with (h | rfl) | rfl | h | rfl | h | rfl | h | rfl | h | rfl | h
  · exact hname (isAlpha_of_mem_weekdayName (weekday_lt _) h)
  · rfl
  · rfl
  · exact isDateChar_of_isDigit (isDigit_of_mem_padded h)
  · rfl
  · exact hname (isAlpha_of_mem_monthName h)
  · rfl
  · rcases mem_yearText h with h | rfl | rfl
    · exact isDateChar_of_isDigit h
    · rfl
    · rfl
  · rfl
  · rcases mem_clockText h with h | rfl
    · exact isDateChar_of_isDigit h
    · rfl
  · rfl
  · have hzone : ∀ c ∈ "GMT".toList, isDateChar c = true := Text.forall_mem_of_all (by decide)
    exact hzone c h

theorem head?_text (t : Timestamp) :
    ∃ first, t.text.toList.head? = some first ∧ first.isAlpha = true := by
  have hnonempty : ∀ i < 7, (Date.weekdayNames.getD i "").toList ≠ [] := by decide
  obtain ⟨first, rest, hname⟩ :=
    List.exists_cons_of_ne_nil (hnonempty _ (weekday_lt (t.secs / secondsPerDay)))
  have hmem : first ∈ (Date.weekdayNames.getD (Date.weekday (t.secs / secondsPerDay)) "").toList :=
    hname ▸ List.mem_cons_self ..
  refine ⟨first, ?_, isAlpha_of_mem_weekdayName (weekday_lt _) hmem⟩
  rw [toList_text, hname]
  rfl

theorem getLast?_text (t : Timestamp) : t.text.toList.getLast? = some 'T' := by
  rw [toList_text]
  simp [List.getLast?_cons]

/-! ## Reading back -/

theorem notMem_of_isDigit {cs : List Char} {sep : Char} (hsep : sep.isDigit = false)
    (hcs : ∀ c ∈ cs, c.isDigit = true) : sep ∉ cs := fun h => by
  rw [hcs sep h] at hsep
  cases hsep

/-- A time of day is read back; only in the last second of a minute can it be a leap second. -/
theorem readClock?_clockText {second : Nat} {leap : Bool} (h : second < secondsPerDay)
    (hleap : leap = true → second % 60 = 59) :
    readClock? (clockText second leap).toList = some (second, leap) := by
  simp only [secondsPerDay] at h
  have hcolon : ∀ n, ':' ∉ (padded 2 n).toList := fun n =>
    notMem_of_isDigit rfl fun c hc => isDigit_of_mem_padded hc
  have hlist : (clockText second leap).toList =
      (padded 2 (second / 3600)).toList ++ ':' :: ((padded 2 (second / 60 % 60)).toList
        ++ ':' :: (padded 2 (second % 60 + (if leap then 1 else 0))).toList) := by
    simp [clockText]
  have hread : ∀ n < 100, readNumber? 2 (padded 2 n).toList = some n := fun n hn =>
    readNumber?_padded (length_padded_of_lt 2 _ (by decide) hn)
  have hlast : second % 60 + (if leap then 1 else 0) ≤ 60
      ∧ min (second % 60 + (if leap then 1 else 0)) 59 = second % 60
      ∧ decide (second % 60 + (if leap then 1 else 0) = 60) = leap := by
    cases leap with
    | false =>
        simp only [Bool.false_eq_true, if_false, decide_eq_false_iff_not]
        omega
    | true =>
        have h59 := hleap rfl
        simp only [if_true, decide_eq_true_eq]
        omega
  -- the second as printed, which runs up to 60, is all that matters from here on
  rw [readClock?, hlist]
  generalize second % 60 + (if leap then 1 else 0) = last at hlast
  obtain ⟨hle, hmin, hsixty⟩ := hlast
  have hsum : 3600 * (second / 3600) + 60 * (second / 60 % 60) + second % 60 = second := by omega
  have hfit : second / 3600 < 24 ∧ second / 60 % 60 < 60 ∧ last ≤ 60 := by omega
  rw [List.splitOn_append_cons_self_of_not_mem (hcolon _),
    List.splitOn_append_cons_self_of_not_mem (hcolon _),
    List.splitOn_eq_singleton (hcolon _)]
  simp only [hread (second / 3600) (by omega), hread (second / 60 % 60) (by omega),
    hread last (by omega), Option.bind_eq_bind, Option.bind_some, if_pos hfit, hmin, hsixty, hsum]

/-- **Reading a date back.** The date of a timestamp names its second. -/
theorem readDate?_text {t : Timestamp} (ht : Timestamp.nanosFit t.secs t.nanos = true) :
    readDate? t.text.toList = some t.floor := by
  have hvalid := Date.isValid_ofDay (t.secs / secondsPerDay)
  have hday := Date.toDay_ofDay (t.secs / secondsPerDay)
  have hweekday : ' ' ∉ (Date.weekdayNames.getD (Date.weekday (t.secs / secondsPerDay)) "").toList
      ++ [','] := fun h => by
    rcases List.mem_append.mp h with h | h
    · cases isAlpha_of_mem_weekdayName (weekday_lt _) h
    · cases List.mem_singleton.mp h
  have hclock : ' ' ∉
      (clockText (t.secs % secondsPerDay).toNat (nanosPerSecond ≤ t.nanos)).toList := fun h => by
    rcases mem_clockText h with h | h <;> cases h
  have hsecond : (t.secs % secondsPerDay).toNat < secondsPerDay
      ∧ secondsPerDay * (t.secs / secondsPerDay) + ((t.secs % secondsPerDay).toNat : Int)
        = t.secs := by
    unfold secondsPerDay
    omega
  have hleap : decide (nanosPerSecond ≤ t.nanos) = true →
      (t.secs % secondsPerDay).toNat % 60 = 59 := by
    simp only [Timestamp.nanosFit, Bool.or_eq_true, Bool.and_eq_true, decide_eq_true_eq,
      beq_iff_eq] at ht ⊢
    unfold secondsPerDay
    omega
  have hread := readClock?_clockText hsecond.1 hleap
  rw [readDate?, toList_text]
  generalize Date.ofDay (t.secs / secondsPerDay) = date at hvalid hday
  have hnumber : ' ' ∉ (padded 2 date.day).toList :=
    notMem_of_isDigit rfl fun c hc => isDigit_of_mem_padded hc
  have hmonth : ' ' ∉ (Date.monthNames.getD (date.month - 1) "").toList := fun h => by
    cases isAlpha_of_mem_monthName h
  have hyear : ' ' ∉ (yearText date.year).toList := fun h => by
    rcases mem_yearText h with h | h | h <;> cases h
  rw [List.splitOn_append_cons_self_of_not_mem hweekday,
    List.splitOn_append_cons_self_of_not_mem hnumber,
    List.splitOn_append_cons_self_of_not_mem hmonth,
    List.splitOn_append_cons_self_of_not_mem hyear,
    List.splitOn_append_cons_self_of_not_mem hclock, List.splitOn_eq_singleton (by decide)]
  have hday31 := Date.day_le_of_isValid hvalid
  have hreadDay : readNumber? 2 (padded 2 date.day).toList = some date.day :=
    readNumber?_padded (length_padded_of_lt 2 _ (by decide) (by omega))
  simp only [readYear?_yearText, readMonth?_monthName hvalid.1 hvalid.2.1, hreadDay, hread,
    Option.bind_eq_bind, Option.bind_some, hday, hsecond.2]
  rw [if_pos ⟨hvalid, trivial, trivial⟩]
  simp [Timestamp.floor]

end MenuHost.Time
