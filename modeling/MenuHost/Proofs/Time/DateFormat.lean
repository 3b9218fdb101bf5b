import MenuHost.Proofs.Time.DateText
import MenuHost.Proofs.Time.DayByDay

/-!
# The format of cookie dates

`readDate?` reads dates leniently in one point, a sign that a year need
not have. `IsDateOf` says of a text that it is the date of a second in
every detail: which day of the calendar that second belongs to
(`Falls`, which knows nothing of the arithmetic), which fields the day and
the time of day are written in, and what stands between them.
`isDateOf_text` shows it of every timestamp that is in no leap second.

Each field is read back from its digits or its name, so what the fields say
fixes what they are, and a second has one date (`IsDateOf.eq`). Together with
`readDate?_text` this tells what a date is good for: it names one second
(`isDateOf_text_iff`) and nothing finer (`text_eq_iff`).
-/

namespace MenuHost.Time

/-! ## Fields -/

/-- The fields of a date, and below the text that they make. -/
structure DateFields where
  weekday : List Char
  day : List Char
  month : List Char
  year : List Char
  hour : List Char
  minute : List Char
  second : List Char

def DateFields.chars (f : DateFields) : List Char :=
  f.weekday ++ ", ".toList ++ f.day ++ " ".toList ++ f.month ++ " ".toList ++ f.year
    ++ " ".toList ++ f.hour ++ ":".toList ++ f.minute ++ ":".toList ++ f.second ++ " GMT".toList

/-- The years 0 to 9999 are four digits. Any other has a sign and as many digits
as it takes, but four at least. -/
def WritesYear (year : Int) (cs : List Char) : Prop :=
  if 0 ≤ year ∧ year ≤ 9999 then readNumber? 4 cs = some year.toNat
  else ∃ digits, cs = (if year < 0 then '-' else '+') :: digits
    ∧ readNumber? (max 4 (Nat.toDigits 10 year.natAbs).length) digits = some year.natAbs

/-- What the fields say: a day of the calendar and a time of day. -/
structure DateFields.Say (f : DateFields) (d : CalendarDay) (hour minute second : Nat) : Prop where
  weekday : Date.weekdayNames[d.weekday]? = some (String.ofList f.weekday)
  day : readNumber? 2 f.day = some d.date.day
  month : Date.monthNames[d.date.month - 1]? = some (String.ofList f.month)
  year : WritesYear d.date.year f.year
  hour : readNumber? 2 f.hour = some hour
  minute : readNumber? 2 f.minute = some minute
  second : readNumber? 2 f.second = some second

/-- The text is the date of a second: of the day and the time of day that it
belongs to. -/
def IsDateOf (cs : List Char) (secs : Int) : Prop :=
  ∃ (f : DateFields) (n : Int) (d : CalendarDay) (hour minute second : Nat),
    cs = f.chars ∧ f.Say d hour minute second
      ∧ Falls n d ∧ hour < 24 ∧ minute < 60 ∧ second < 60
      ∧ secs = 86400 * n + (3600 * hour + 60 * minute + second : Nat)

/-! ## What is written -/

theorem writesYear_yearText (year : Int) : WritesYear year (yearText year).toList := by
  unfold WritesYear yearText
  by_cases hplain : 0 ≤ year ∧ year ≤ 9999
  · rw [if_pos hplain, if_pos hplain]
    exact readNumber?_padded (length_padded_of_lt 4 year.toNat (by decide) (by omega))
  · rw [if_neg hplain, if_neg hplain]
    refine ⟨(padded 4 year.natAbs).toList, ?_, readNumber?_padded length_padded⟩
    rw [String.toList_append]
    split <;> rfl

theorem monthName_of_isValid {d : Date} (h : d.isValid) :
    Date.monthNames[d.month - 1]? = some (Date.monthNames.getD (d.month - 1) "") := by
  have hlt : d.month - 1 < Date.monthNames.length := by
    have h12 : d.month - 1 < 12 := by have := h.1; have := h.2.1; omega
    exact h12
  rw [List.getD_eq_getElem?_getD, List.getElem?_eq_getElem hlt, Option.getD_some]

theorem weekdayName_weekday (day : Int) :
    Date.weekdayNames[Date.weekday day]? =
      some (Date.weekdayNames.getD (Date.weekday day) "") := by
  have hlt : Date.weekday day < Date.weekdayNames.length := weekday_lt day
  rw [List.getD_eq_getElem?_getD, List.getElem?_eq_getElem hlt, Option.getD_some]

/-- The fields that a second of a day is written in. -/
def fieldsOf (day : Int) (second : Nat) : DateFields where
  weekday := (Date.weekdayNames.getD (Date.weekday day) "").toList
  day := (padded 2 (Date.ofDay day).day).toList
  month := (Date.monthNames.getD ((Date.ofDay day).month - 1) "").toList
  year := (yearText (Date.ofDay day).year).toList
  hour := (padded 2 (second / 3600)).toList
  minute := (padded 2 (second / 60 % 60)).toList
  second := (padded 2 (second % 60)).toList

theorem chars_fieldsOf {t : Timestamp} (ht : t.nanos < nanosPerSecond) :
    t.text.toList =
      (fieldsOf (t.secs / secondsPerDay) (t.secs % secondsPerDay).toNat).chars := by
  simp [Timestamp.text, clockText, DateFields.chars, fieldsOf, Nat.not_le.mpr ht]

theorem say_fieldsOf (day : Int) {second : Nat} (h : second < secondsPerDay) :
    (fieldsOf day second).Say ⟨Date.ofDay day, Date.weekday day⟩
      (second / 3600) (second / 60 % 60) (second % 60) := by
  have hvalid := Date.isValid_ofDay day
  have hday31 := Date.day_le_of_isValid hvalid
  have htwo : ∀ n < 100, readNumber? 2 (padded 2 n).toList = some n := fun n hn =>
    readNumber?_padded (length_padded_of_lt 2 n (by decide) hn)
  have hweekday := weekdayName_weekday day
  unfold secondsPerDay at h
  unfold fieldsOf
  generalize Date.ofDay day = date at hvalid hday31
  constructor <;> dsimp only
  · rw [hweekday, String.ofList_toList]
  · exact htwo date.day (by omega)
  · rw [monthName_of_isValid hvalid, String.ofList_toList]
  · exact writesYear_yearText date.year
  · exact htwo (second / 3600) (by omega)
  · exact htwo (second / 60 % 60) (by omega)
  · exact htwo (second % 60) (by omega)

/-- The text of a timestamp is the date of its second. -/
theorem isDateOf_text {t : Timestamp} (ht : t.nanos < nanosPerSecond) :
    IsDateOf t.text.toList t.secs := by
  have hchars := chars_fieldsOf ht
  have hparts : ((t.secs % secondsPerDay).toNat : Int) = t.secs % secondsPerDay
      ∧ (t.secs % secondsPerDay).toNat < secondsPerDay := by
    unfold secondsPerDay
    omega
  have hdays : secondsPerDay * (t.secs / secondsPerDay) + t.secs % secondsPerDay = t.secs :=
    Int.mul_ediv_add_emod ..
  -- from here on the day and the second of the day are just two numbers
  generalize t.secs / secondsPerDay = day at hchars hdays
  generalize (t.secs % secondsPerDay).toNat = second at hchars hparts
  refine ⟨fieldsOf day second, day, _, _, _, _, hchars, say_fieldsOf day hparts.2,
    falls_ofDay day, ?_⟩
  unfold secondsPerDay at hparts hdays
  omega

/-! ## Only this is written -/

/-- Digits that stand for one number are the same, if there are as many of them. -/
theorem ofDigitChars_injective {cs ds : List Char} {m n : Nat} (hlen : cs.length = ds.length)
    (hcs : ∀ c ∈ cs, c.isDigit = true) (hds : ∀ d ∈ ds, d.isDigit = true)
    (h : Nat.ofDigitChars 10 cs m = Nat.ofDigitChars 10 ds n) : m = n ∧ cs = ds := by
  induction cs generalizing ds m n with
  | nil =>
      obtain rfl := List.length_eq_zero_iff.mp hlen.symm
      exact ⟨h, rfl⟩
  | cons c cs ih =>
      obtain ⟨d, ds, rfl⟩ := List.exists_cons_of_length_eq_add_one hlen.symm
      have hc := Char.isDigit_iff_toNat.mp (hcs c (List.mem_cons_self ..))
      have hd := Char.isDigit_iff_toNat.mp (hds d (List.mem_cons_self ..))
      rw [Nat.ofDigitChars_cons, Nat.ofDigitChars_cons] at h
      obtain ⟨hvalue, rfl⟩ := ih (Nat.succ.inj hlen) (fun x hx => hcs x (List.mem_cons_of_mem _ hx))
        (fun x hx => hds x (List.mem_cons_of_mem _ hx)) h
      have hzero : '0'.toNat = 48 := rfl
      have hnine : '9'.toNat = 57 := rfl
      rw [hzero] at hc hd hvalue
      rw [hnine] at hc hd
      have hchar : c.toNat = d.toNat := by omega
      exact ⟨by omega, by rw [← Char.ofNat_toNat c, hchar, Char.ofNat_toNat]⟩

theorem readNumber?_injective {width n : Nat} {cs ds : List Char}
    (hcs : readNumber? width cs = some n) (hds : readNumber? width ds = some n) : cs = ds := by
  unfold readNumber? at hcs hds
  obtain ⟨⟨hlen, hdigits⟩, hvalue⟩ := Option.ite_none_right_eq_some.mp hcs
  obtain ⟨⟨hlen', hdigits'⟩, hvalue'⟩ := Option.ite_none_right_eq_some.mp hds
  have hsame := (Option.some.inj hvalue).trans (Option.some.inj hvalue').symm
  exact (ofDigitChars_injective (hlen.trans hlen'.symm) (List.all_eq_true.mp hdigits)
    (List.all_eq_true.mp hdigits') hsame).2

theorem WritesYear.injective {year : Int} {cs ds : List Char} (hcs : WritesYear year cs)
    (hds : WritesYear year ds) : cs = ds := by
  unfold WritesYear at hcs hds
  by_cases hplain : 0 ≤ year ∧ year ≤ 9999
  · rw [if_pos hplain] at hcs hds
    exact readNumber?_injective hcs hds
  · rw [if_neg hplain] at hcs hds
    obtain ⟨digits, rfl, hdigits⟩ := hcs
    obtain ⟨digits', rfl, hdigits'⟩ := hds
    rw [readNumber?_injective hdigits hdigits']

theorem DateFields.Say.injective {f g : DateFields} {d : CalendarDay} {hour minute second : Nat}
    (hf : f.Say d hour minute second) (hg : g.Say d hour minute second) : f = g := by
  have hname : ∀ {names : List String} {i : Nat} {cs ds : List Char},
      names[i]? = some (String.ofList cs) → names[i]? = some (String.ofList ds) → cs = ds :=
    fun hcs hds => String.ofList_injective (Option.some.inj (hcs.symm.trans hds))
  obtain ⟨weekday, day, month, year, hourField, minuteField, secondField⟩ := f
  obtain ⟨weekday', day', month', year', hourField', minuteField', secondField'⟩ := g
  obtain rfl : weekday = weekday' := hname hf.weekday hg.weekday
  obtain rfl : day = day' := readNumber?_injective hf.day hg.day
  obtain rfl : month = month' := hname hf.month hg.month
  obtain rfl : year = year' := hf.year.injective hg.year
  obtain rfl : hourField = hourField' := readNumber?_injective hf.hour hg.hour
  obtain rfl : minuteField = minuteField' := readNumber?_injective hf.minute hg.minute
  obtain rfl : secondField = secondField' := readNumber?_injective hf.second hg.second
  rfl

/-- A second has one date. -/
theorem IsDateOf.eq {cs ds : List Char} {secs : Int} (hcs : IsDateOf cs secs)
    (hds : IsDateOf ds secs) : cs = ds := by
  obtain ⟨f, n, d, hour, minute, second, rfl, hf, hfalls, hfit, hminute, hsecond, hsecs⟩ := hcs
  obtain ⟨g, n', d', hour', minute', second', rfl, hg, hfalls', hfit', hminute', hsecond',
    hsecs'⟩ := hds
  obtain rfl : n = n' := by omega
  obtain rfl : hour = hour' := by omega
  obtain rfl : minute = minute' := by omega
  obtain rfl : second = second' := by omega
  obtain rfl := (falls_iff.mp hfalls).trans (falls_iff.mp hfalls').symm
  rw [hf.injective hg]

/-! ## What a date tells apart -/

theorem nanosFit_of_lt {t : Timestamp} (ht : t.nanos < nanosPerSecond) :
    Timestamp.nanosFit t.secs t.nanos = true := by
  simp [Timestamp.nanosFit, ht]

/-- A date is read back as the beginning of its second. -/
theorem readDate?_text_of_lt {t : Timestamp} (ht : t.nanos < nanosPerSecond) :
    readDate? t.text.toList = some ⟨t.secs, 0⟩ := by
  rw [readDate?_text (nanosFit_of_lt ht), Timestamp.floor, if_neg (Nat.not_le.mpr ht)]

/-- Two timestamps have the same date if they lie in the same second, and only then. -/
theorem text_eq_iff {t u : Timestamp} (ht : t.nanos < nanosPerSecond)
    (hu : u.nanos < nanosPerSecond) : t.text = u.text ↔ t.secs = u.secs := by
  constructor
  · intro h
    have hread := readDate?_text_of_lt ht
    rw [h, readDate?_text_of_lt hu] at hread
    exact (Timestamp.mk.inj (Option.some.inj hread)).1.symm
  · intro h
    have hleap : decide (nanosPerSecond ≤ t.nanos) = decide (nanosPerSecond ≤ u.nanos) := by
      rw [decide_eq_false (Nat.not_le.mpr ht), decide_eq_false (Nat.not_le.mpr hu)]
    simp only [Timestamp.text, h, hleap]

/-- The date of a timestamp is the date of its second, and of no other. -/
theorem isDateOf_text_iff {t : Timestamp} (ht : t.nanos < nanosPerSecond) {secs : Int} :
    IsDateOf t.text.toList secs ↔ secs = t.secs := by
  have hzero : 0 < nanosPerSecond := by decide
  constructor
  · intro h
    have hsame := h.eq (isDateOf_text (t := ⟨secs, 0⟩) hzero)
    exact ((text_eq_iff ht hzero).mp (String.toList_injective hsame)).symm
  · rintro rfl
    exact isDateOf_text ht

end MenuHost.Time
