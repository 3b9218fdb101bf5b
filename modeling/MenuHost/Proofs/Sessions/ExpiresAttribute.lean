import MenuHost.Proofs.Sessions.CookieValue
import MenuHost.Proofs.Time.DateFormat

/-!
# The date in a session cookie

The `Expires` attribute of a session cookie, whatever the cookie's value
is. Values may hold semicolons and attributes of their own, so the date is
found by what stands around it: `WritesExpiry` says that a header is the
cookie of a value with some text in the place of the date.

That text is the date of the second in which the session expires, so
nothing is lost but the nanoseconds.
-/

namespace MenuHost.Sessions

open MenuHost.Http

/-- The header is the cookie of a value, and what it has for a date is this text. -/
def WritesExpiry (header : HeaderValue) (value date : String) : Prop :=
  header.bytes = Text.Utf8.encode
    (cookieName ++ "=" ++ value ++ "; Expires=" ++ date ++ "; " ++ cookieAttributes)

theorem writesExpiry_iff {value : String} {expires : Time.Timestamp} {header : HeaderValue}
    (h : cookie? value expires = some header) {date : String} :
    WritesExpiry header value date ↔ date = expires.text := by
  have hbytes := bytes_of_cookie? h
  constructor
  · intro hdate
    have htext := Text.Utf8.encode_injective (hbytes.symm.trans hdate)
    have hlist := congrArg String.toList htext
    simp only [cookieText, String.toList_append, List.append_assoc, List.append_cancel_left_eq,
      String.toList_empty, List.nil_append] at hlist
    simp only [← List.append_assoc, List.append_cancel_right_eq] at hlist
    exact String.toList_injective hlist.symm
  · rintro rfl
    rw [WritesExpiry, hbytes]
    congr 1
    simp [cookieText]

/-- **When a cookie expires.** The date in a cookie is the date of the second in
which it expires: of that second and of no other, so that two cookies have the same
date if they expire in the same second, and only then. -/
theorem expires_names_the_second {value : String} {expires : Time.Timestamp}
    {header : HeaderValue} (hnanos : expires.nanos < Time.nanosPerSecond)
    (hheader : cookie? value expires = some header) :
    ∃ date, (∀ text, WritesExpiry header value text ↔ text = date)
      ∧ (∀ secs, Time.IsDateOf date.toList secs ↔ secs = expires.secs)
      ∧ Time.readDate? date.toList = some ⟨expires.secs, 0⟩
      ∧ ∀ {other : String} {later : Time.Timestamp} {otherHeader : HeaderValue} {text : String},
          later.nanos < Time.nanosPerSecond → cookie? other later = some otherHeader →
          WritesExpiry otherHeader other text → (text = date ↔ later.secs = expires.secs) := by
  refine ⟨expires.text, fun text => writesExpiry_iff hheader,
    fun secs => Time.isDateOf_text_iff hnanos, Time.readDate?_text_of_lt hnanos, ?_⟩
  intro other later otherHeader text hlater hother htext
  obtain rfl := (writesExpiry_iff hother).mp htext
  exact Time.text_eq_iff hlater hnanos

/-- The first second of the year 10000, whatever part of it has passed. -/
theorem expires_names_the_second_year_10000 :
    ∃ header, cookie? "a" ⟨253402300800, 5⟩ = some header
      ∧ WritesExpiry header "a" "Sat, 01 Jan +10000 00:00:00 GMT"
      ∧ Time.readDate? "Sat, 01 Jan +10000 00:00:00 GMT".toList = some ⟨253402300800, 0⟩
      ∧ ¬Time.IsDateOf "Sat, 01 Jan +10000 00:00:00 GMT".toList 253402300801 := by
  have hvalue : Admissible "a" := Text.forall_mem_of_all (by decide)
  obtain ⟨header, hheader⟩ := Option.isSome_iff_exists.mp
    (isSome_cookie?_iff.mpr hvalue : (cookie? "a" ⟨253402300800, 5⟩).isSome = true)
  obtain ⟨date, hunique, hdate, hread, -⟩ := expires_names_the_second (by decide) hheader
  have htext : "Sat, 01 Jan +10000 00:00:00 GMT" = date := by
    have heq : Time.Timestamp.text ⟨253402300800, 5⟩ = "Sat, 01 Jan +10000 00:00:00 GMT" := by
      decide +kernel
    exact (hunique _).mp ((writesExpiry_iff hheader).mpr heq.symm)
  rw [htext]
  exact ⟨header, hheader, (hunique date).mpr rfl, hread,
    fun h => absurd ((hdate _).mp h) (by decide)⟩

end MenuHost.Sessions
