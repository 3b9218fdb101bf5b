import Mathlib.Data.List.Forall2
import MenuHost.Json.Printer
import MenuHost.Json.Reader

/-!
# Reading what was printed

The compact text of a value, read again. Only values without numbers are
treated, which is what typed views are written as: strings, arrays and
objects of them. That they may stand in front of anything is what makes the
induction over items and members go through, so `ReadsAs` is about a text
with an arbitrary rest.

What is read need not be what was printed: a reader puts the members of an
object into the order of their keys. `ReadsAs` therefore relates two values,
and an object is read as its members, set one after the other
(`ReadsAs.object`).

Reading is bounded by steps. Every step that goes deeper or further leaves a
character behind, so the length of the text bounds them
(`ReadsAs.reads`).
-/

namespace MenuHost.Json

/-! ## Strings -/

theorem hexValue?_hexDigit_all : ∀ n < 16, hexValue? (hexDigit n) = some n := by
  decide

theorem codeUnit?_of_lt {n : Nat} (h : n < 0x20) :
    codeUnit? '0' '0' (hexDigit (n / 16)) (hexDigit (n % 16)) = some n := by
  have hzero : hexValue? '0' = some 0 := rfl
  have hhigh := hexValue?_hexDigit_all (n / 16) (by omega)
  have hlow := hexValue?_hexDigit_all (n % 16) (by omega)
  simp only [codeUnit?, hzero, hhigh, hlow, Option.bind_eq_bind, Option.bind_some]
  congr 1
  omega

/-- Where no escape begins, a character closes the literal, is refused or stands
for itself. -/
theorem readString_cons {c : Char} (h : c ≠ '\\') (acc rest : List Char) :
    readString none acc (c :: rest) =
      if c = '"' then some (String.ofList acc.reverse, rest)
      else if c.toNat < 0x20 then none
      else readString none (c :: acc) rest := by
  rw [readString.eq_def]
  split
  · next heq => exact absurd (List.cons.inj heq).1 h
  · next heq =>
      obtain ⟨rfl, rfl⟩ := List.cons.inj heq
      simp [h]
  · next heq => cases heq

theorem readString_escape (acc : List Char) (c : Char) (rest : List Char) :
    readString none acc (escape c ++ rest) = readString none (c :: acc) rest := by
  unfold escape
  -- seven characters have an escape of one letter; behind them come the other controls
  split
  · simp [readString, shortEscape?]
  · simp [readString, shortEscape?]
  · simp [readString, shortEscape?]
  · simp [readString, shortEscape?]
  · simp [readString, shortEscape?]
  · simp [readString, shortEscape?]
  · simp [readString, shortEscape?]
  · next hquote hbackslash _ _ _ _ _ =>
    split
    · next hcontrol =>
      have hunit := codeUnit?_of_lt hcontrol
      simp only [List.cons_append, List.nil_append]
      rw [readString]
      simp only [hunit, Option.bind_eq_bind, Option.bind_some]
      rw [if_neg (by omega), if_neg (by omega), Char.ofNat_toNat]
    · next hcontrol =>
      rw [List.singleton_append, readString_cons hbackslash, if_neg hquote, if_neg hcontrol]

theorem readString_flatMap_escape (acc cs rest : List Char) :
    readString none acc (cs.flatMap escape ++ '"' :: rest)
      = some (String.ofList (acc.reverse ++ cs), rest) := by
  induction cs generalizing acc with
  | nil => simp [readString_cons]
  | cons c cs ih =>
      rw [List.flatMap_cons, List.append_assoc, readString_escape, ih]
      simp

/-- A string literal is read up to its end, whatever follows. -/
theorem readString_quote (s : String) (rest : List Char) :
    readString none [] (s.toList.flatMap escape ++ '"' :: rest) = some (s, rest) := by
  rw [readString_flatMap_escape, List.reverse_nil, List.nil_append, String.ofList_toList]

/-! ## Values -/

theorem skipBlanks_cons {c : Char} (h : isBlank c = false) (cs : List Char) :
    skipBlanks (c :: cs) = c :: cs := by
  simp [skipBlanks, h]

/-- The text of the first value is read as the second, whatever follows. As many
steps are enough as the text has characters. -/
structure ReadsAs (v w : Json) : Prop where
  opens : ∃ c cs, v.print = c :: cs ∧ isBlank c = false ∧ c ≠ ']'
  reads : ∀ fuel rest, v.print.length ≤ fuel → readValue fuel (v.print ++ rest) = some (w, rest)

namespace ReadsAs

theorem string (s : String) : ReadsAs (.string s) (.string s) := by
  refine ⟨⟨'"', _, rfl, rfl, by decide⟩, fun fuel rest hfuel => ?_⟩
  cases fuel with
  | zero => simp [print, quote] at hfuel
  | succ fuel =>
      have hquote : print (.string s) ++ rest
          = '"' :: (s.toList.flatMap escape ++ '"' :: rest) := by
        simp [print, quote]
      rw [hquote, readValue, skipBlanks_cons rfl]
      simp only [readString_quote, Option.map_some]

/-! ### Arrays -/

theorem readItems_comma {v w : Json} (h : ReadsAs v w) {fuel : Nat} (hfuel : v.print.length ≤ fuel)
    (acc : List Json) (rest : List Char) :
    readItems (fuel + 1) acc (v.print ++ ',' :: rest) = readItems fuel (w :: acc) rest := by
  rw [readItems, h.reads fuel _ hfuel]
  rfl

theorem readItems_close {v w : Json} (h : ReadsAs v w) {fuel : Nat} (hfuel : v.print.length ≤ fuel)
    (acc : List Json) (rest : List Char) :
    readItems (fuel + 1) acc (v.print ++ ']' :: rest)
      = some (.array (w :: acc).reverse, rest) := by
  rw [readItems, h.reads fuel _ hfuel]
  rfl

theorem printItems_cons_cons (v v' : Json) (vs : List Json) :
    printItems (v :: v' :: vs) = v.print ++ ',' :: printItems (v' :: vs) := by
  rw [printItems]
  exact List.cons_ne_nil v' vs

theorem readItems_printItems {v w : Json} {vs ws : List Json} (h : ReadsAs v w)
    (hs : List.Forall₂ ReadsAs vs ws) (acc : List Json) {fuel : Nat}
    (hfuel : (printItems (v :: vs)).length < fuel) (rest : List Char) :
    readItems fuel acc (printItems (v :: vs) ++ ']' :: rest)
      = some (.array (acc.reverse ++ w :: ws), rest) := by
  induction hs generalizing v w acc fuel with
  | nil =>
      obtain ⟨fuel, rfl⟩ := Nat.exists_eq_add_one_of_ne_zero (Nat.ne_zero_of_lt hfuel)
      rw [printItems] at hfuel ⊢
      rw [h.readItems_close (Nat.le_of_lt_succ hfuel), List.reverse_cons]
  | @cons v' w' vs ws h' hs ih =>
      obtain ⟨fuel, rfl⟩ := Nat.exists_eq_add_one_of_ne_zero (Nat.ne_zero_of_lt hfuel)
      rw [printItems_cons_cons, List.length_append, List.length_cons] at hfuel
      rw [printItems_cons_cons, List.append_assoc, List.cons_append, h.readItems_comma (by omega),
        ih h' (w :: acc) (by omega), List.reverse_cons, List.append_assoc, List.singleton_append]

theorem opens_printItems {v w : Json} (h : ReadsAs v w) (vs : List Json) :
    ∃ c cs, printItems (v :: vs) = c :: cs ∧ isBlank c = false ∧ c ≠ ']' := by
  obtain ⟨c, cs, hprint, hopens⟩ := h.opens
  cases vs with
  | nil => exact ⟨c, cs, by rw [printItems, hprint], hopens⟩
  | cons v' vs =>
      refine ⟨c, cs ++ ',' :: printItems (v' :: vs), ?_, hopens⟩
      rw [printItems_cons_cons, hprint, List.cons_append]

theorem array {vs ws : List Json} (hs : List.Forall₂ ReadsAs vs ws) :
    ReadsAs (.array vs) (.array ws) := by
  refine ⟨⟨'[', _, rfl, rfl, by decide⟩, fun fuel rest hfuel => ?_⟩
  cases fuel with
  | zero => simp [print] at hfuel
  | succ fuel =>
      have hprint : print (.array vs) ++ rest = '[' :: (printItems vs ++ ']' :: rest) := by
        simp [print]
      rw [hprint, readValue, skipBlanks_cons rfl]
      cases hs with
      | nil => rfl
      | @cons v w vs ws h hs =>
          have hlength : (printItems (v :: vs)).length < fuel := by
            rw [print, List.length_cons, List.length_append] at hfuel
            exact Nat.le_of_succ_le_succ hfuel
          have hitems := h.readItems_printItems hs [] hlength rest
          obtain ⟨c, cs, hfirst, hblank, hbracket⟩ := h.opens_printItems vs
          rw [hfirst, List.cons_append] at hitems ⊢
          simp only [skipBlanks_cons hblank]
          split
          · next heq => exact absurd (List.cons.inj heq).1 hbracket
          · exact hitems

/-! ### Objects -/

theorem readMembers_key {fuel : Nat} (key : String) (acc : List (String × Json))
    (rest : List Char) :
    readMembers (fuel + 1) acc (quote key ++ ':' :: rest) =
      (readValue fuel rest).bind fun (value, rest) =>
        match skipBlanks rest with
        | ',' :: rest => readMembers fuel (setMember key value acc) rest
        | '}' :: rest => some (.object (setMember key value acc), rest)
        | _ => none := by
  have hquote : quote key ++ ':' :: rest
      = '"' :: (key.toList.flatMap escape ++ '"' :: ':' :: rest) := by
    simp [quote]
  rw [hquote, readMembers, skipBlanks_cons rfl]
  simp only [readString_quote, Option.bind_eq_bind, Option.bind_some]
  rw [skipBlanks_cons rfl]
  rfl

theorem readMembers_comma {v w : Json} (h : ReadsAs v w) {fuel : Nat}
    (hfuel : v.print.length ≤ fuel) (key : String) (acc : List (String × Json))
    (rest : List Char) :
    readMembers (fuel + 1) acc (quote key ++ ':' :: (v.print ++ ',' :: rest))
      = readMembers fuel (setMember key w acc) rest := by
  rw [readMembers_key, h.reads fuel _ hfuel]
  rfl

theorem readMembers_close {v w : Json} (h : ReadsAs v w) {fuel : Nat}
    (hfuel : v.print.length ≤ fuel) (key : String) (acc : List (String × Json))
    (rest : List Char) :
    readMembers (fuel + 1) acc (quote key ++ ':' :: (v.print ++ '}' :: rest))
      = some (.object (setMember key w acc), rest) := by
  rw [readMembers_key, h.reads fuel _ hfuel]
  rfl

theorem printMembers_cons_cons (key : String) (v : Json) (m : String × Json)
    (members : List (String × Json)) :
    printMembers ((key, v) :: m :: members)
      = quote key ++ ':' :: (v.print ++ ',' :: printMembers (m :: members)) := by
  rw [printMembers]
  exact List.cons_ne_nil m members

/-- The members of an object, with the values that are read for theirs. -/
def Members (members others : List (String × Json)) : Prop :=
  List.Forall₂ (fun m o => m.1 = o.1 ∧ ReadsAs m.2 o.2) members others

/-- The members that are read, each put at the place of its key. -/
def sorted (members acc : List (String × Json)) : List (String × Json) :=
  members.foldl (fun acc m => setMember m.1 m.2 acc) acc

theorem readMembers_printMembers {v w : Json} {members others : List (String × Json)}
    (h : ReadsAs v w) (hs : Members members others) (key : String) (acc : List (String × Json))
    {fuel : Nat} (hfuel : (printMembers ((key, v) :: members)).length < fuel) (rest : List Char) :
    readMembers fuel acc (printMembers ((key, v) :: members) ++ '}' :: rest)
      = some (.object (sorted ((key, w) :: others) acc), rest) := by
  induction hs generalizing key v w acc fuel with
  | nil =>
      obtain ⟨fuel, rfl⟩ := Nat.exists_eq_add_one_of_ne_zero (Nat.ne_zero_of_lt hfuel)
      rw [printMembers, List.length_append, List.length_cons] at hfuel
      rw [printMembers, List.append_assoc, List.cons_append, h.readMembers_close (by omega)]
      rfl
  | @cons m o members others hm hs ih =>
      obtain ⟨key', v'⟩ := m
      obtain ⟨_, w'⟩ := o
      obtain ⟨rfl, (h' : ReadsAs v' w')⟩ := hm
      obtain ⟨fuel, rfl⟩ := Nat.exists_eq_add_one_of_ne_zero (Nat.ne_zero_of_lt hfuel)
      rw [printMembers_cons_cons, List.length_append, List.length_cons, List.length_append,
        List.length_cons] at hfuel
      rw [printMembers_cons_cons, List.append_assoc, List.cons_append, List.append_assoc,
        List.cons_append, h.readMembers_comma (by omega), ih h' key' _ (by omega)]
      rfl

theorem object {members others : List (String × Json)} (h : Members members others) :
    ReadsAs (.object members) (.object (sorted others [])) := by
  refine ⟨⟨'{', _, rfl, rfl, by decide⟩, fun fuel rest hfuel => ?_⟩
  cases fuel with
  | zero => simp [print] at hfuel
  | succ fuel =>
      have hprint : print (.object members) ++ rest
          = '{' :: (printMembers members ++ '}' :: rest) := by
        simp [print]
      rw [hprint, readValue, skipBlanks_cons rfl]
      cases h with
      | nil => rfl
      | @cons m o members others hm hs =>
          obtain ⟨key, v⟩ := m
          obtain ⟨_, w⟩ := o
          obtain ⟨rfl, h⟩ := hm
          have hlength : (printMembers ((key, v) :: members)).length < fuel := by
            rw [print, List.length_cons, List.length_append] at hfuel
            exact Nat.le_of_succ_le_succ hfuel
          have hmembers := h.readMembers_printMembers hs key [] hlength rest
          obtain ⟨cs, hfirst⟩ : ∃ cs, printMembers ((key, v) :: members) = '"' :: cs := by
            cases members with
            | nil => exact ⟨_, rfl⟩
            | cons m members => exact ⟨_, rfl⟩
          rw [hfirst, List.cons_append] at hmembers ⊢
          exact hmembers

end ReadsAs

/-! ## Texts -/

theorem parse?_compact {v w : Json} (h : ReadsAs v w) : parse? v.compact = some w := by
  have hvalue := h.reads (2 * v.print.length + 2) [] (by omega)
  rw [List.append_nil] at hvalue
  simp only [parse?, compact, String.toList_ofList, hvalue, Option.bind_eq_bind, Option.bind_some]
  rfl

end MenuHost.Json
