import Mathlib.Data.List.Forall2
import MenuHost.Http.Header
import MenuHost.Proofs.Text.Utf8

/-!
# Names of headers, whatever their case

A header name is checked as it was sent and kept in lower case. Both
steps see letters in either case alike: `headerName?_congr`, and from
there `ofFields_congr` for whole lists of headers. `bytes_all_ofFields`
says which of the headers that were sent have a given name.
-/

namespace MenuHost.Http

/-! ## Single names -/

theorem exists_upper {c : Char} (h : c.isUpper = true) : ∃ n < 26, c = Char.ofNat (65 + n) := by
  obtain ⟨hfirst, hlast⟩ := of_decide_eq_true h
  have hlow : 65 ≤ c.toNat := UInt32.le_iff_toNat_le.mp hfirst
  have hhigh : c.toNat ≤ 90 := UInt32.le_iff_toNat_le.mp hlast
  exact ⟨c.toNat - 65, by omega, by rw [Nat.add_sub_cancel' hlow, Char.ofNat_toNat]⟩

/-- The code of a letter is as long in either case, and as good a part of a name. -/
theorem encodeChar_toLower (c : Char) :
    (String.utf8EncodeChar c.toLower).length = (String.utf8EncodeChar c).length
      ∧ (String.utf8EncodeChar c.toLower).all isTokenByte
        = (String.utf8EncodeChar c).all isTokenByte := by
  by_cases hupper : c.isUpper = true
  · have hletters : ∀ n < 26,
        (String.utf8EncodeChar (Char.ofNat (65 + n)).toLower).length
            = (String.utf8EncodeChar (Char.ofNat (65 + n))).length
          ∧ (String.utf8EncodeChar (Char.ofNat (65 + n)).toLower).all isTokenByte
            = (String.utf8EncodeChar (Char.ofNat (65 + n))).all isTokenByte := by decide
    obtain ⟨n, hn, rfl⟩ := exists_upper hupper
    exact hletters n hn
  · have hsame : c.toLower = c := dif_neg fun h => hupper (decide_eq_true h)
    rw [hsame]
    exact ⟨rfl, rfl⟩

theorem encode_toLower (s : String) :
    (Text.Utf8.encode (s.map Char.toLower)).length = (Text.Utf8.encode s).length
      ∧ (Text.Utf8.encode (s.map Char.toLower)).all isTokenByte
        = (Text.Utf8.encode s).all isTokenByte := by
  rw [Text.Utf8.encode_eq_flatMap, Text.Utf8.encode_eq_flatMap, String.toList_map]
  induction s.toList with
  | nil => exact ⟨rfl, rfl⟩
  | cons c cs ih =>
      obtain ⟨hlength, hall⟩ := encodeChar_toLower c
      simp only [List.map_cons, List.flatMap_cons, List.length_append, List.all_append, hlength,
        hall, ih.1, ih.2, and_self]

theorem headerName?_congr {s t : String} (h : s.map Char.toLower = t.map Char.toLower) :
    headerName? s = headerName? t := by
  obtain ⟨hlength, hall⟩ := encode_toLower s
  obtain ⟨hlength', hall'⟩ := encode_toLower t
  rw [h] at hlength hall
  have hlen := hlength.symm.trans hlength'
  have hempty : (Text.Utf8.encode s).isEmpty = (Text.Utf8.encode t).isEmpty := by
    rw [Bool.eq_iff_iff, List.isEmpty_iff_length_eq_zero, List.isEmpty_iff_length_eq_zero, hlen]
  simp only [headerName?, hempty, hlen, hall.symm.trans hall', h]

/-! ## Lists of headers -/

/-- The same headers, but for the case of letters in their names. -/
def SameUpToCase (fields fields' : List (String × List UInt8)) : Prop :=
  List.Forall₂ (fun f g => f.1.map Char.toLower = g.1.map Char.toLower ∧ f.2 = g.2) fields fields'

theorem ofFields_congr {fields fields' : List (String × List UInt8)}
    (h : SameUpToCase fields fields') : Headers.ofFields fields = Headers.ofFields fields' := by
  induction h with
  | nil => rfl
  | @cons f g _ _ hfield _ ih =>
      obtain ⟨name, bytes⟩ := f
      obtain ⟨name', bytes'⟩ := g
      obtain ⟨hname, rfl⟩ :
          name.map Char.toLower = name'.map Char.toLower ∧ bytes = bytes' := hfield
      rw [Headers.ofFields, Headers.ofFields, headerName?_congr hname, ih]

theorem exists_of_ofFields_cons {sent : String} {bytes : List UInt8}
    {rest : List (String × List UInt8)} {headers : Headers}
    (h : Headers.ofFields ((sent, bytes) :: rest) = .ok headers) :
    ∃ value tail, value.bytes = bytes ∧ Headers.ofFields rest = .ok tail
      ∧ headers = ⟨sent.map Char.toLower, value⟩ :: tail := by
  rw [Headers.ofFields] at h
  cases hname : headerName? sent with
  | none => simp [hname] at h
  | some name =>
      obtain ⟨-, hlower⟩ := Option.ite_none_right_eq_some.mp hname
      cases hvalue : HeaderValue.ofBytes? bytes with
      | none => simp [hname, hvalue] at h
      | some value =>
          obtain ⟨hvalid, hbytes⟩ := Option.dite_none_right_eq_some.mp hvalue
          cases htail : Headers.ofFields rest with
          | error e =>
              simp only [hname, hvalue, htail] at h
              cases h
          | ok tail =>
              simp only [hname, hvalue, htail] at h
              obtain rfl := Except.ok.inj h
              rw [← Option.some.inj hlower, ← Option.some.inj hbytes]
              exact ⟨_, tail, rfl, rfl, rfl⟩

/-- The headers of a name are those that were sent with it, in upper or lower case. -/
theorem bytes_all_ofFields {fields : List (String × List UInt8)} {headers : Headers}
    (h : Headers.ofFields fields = .ok headers) (name : String) :
    (headers.all name).map (·.bytes) =
      (fields.filter fun f => f.1.map Char.toLower = name).map (·.2) := by
  induction fields generalizing headers with
  | nil =>
      obtain rfl := Except.ok.inj h
      rfl
  | cons f rest ih =>
      obtain ⟨sent, bytes⟩ := f
      obtain ⟨value, tail, hbytes, htail, rfl⟩ := exists_of_ofFields_cons h
      have hrest := ih htail
      by_cases hname : sent.map Char.toLower = name
      · simpa [Headers.all, hname, hbytes] using hrest
      · simpa [Headers.all, hname] using hrest

end MenuHost.Http
