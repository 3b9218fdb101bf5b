import MenuHost.Base64

/-!
# Base64, written and read back

Whatever holds of the 64 digits holds of every text that `encode` writes
(`forall_mem_encode`), its length depends on that of the bytes only
(`length_encode`), and it is read back as these bytes (`decode_encode`).
Nothing else can be read: a text that has bytes is what `encode` writes for
them (`decode_eq_some_iff`).

Where one byte is left over at the end, its last digit has four spare bits.
They are zero (`getLast?_encode`), and nothing else is asked of the digits of
such a text (`exists_decode`).
-/

namespace MenuHost.Base64

theorem exists_digit_of_mem_encode {a : Base64} {bytes : List UInt8} {c : Char}
    (h : c ∈ a.encode bytes) : ∃ n < 64, c = a.digit n := by
  fun_induction encode a bytes with
  | case1 x y z rest n ih =>
      have hx := x.toNat_lt
      have hy := y.toNat_lt
      have hz := z.toNat_lt
      simp only [List.mem_cons] at h
      rcases h with rfl | rfl | rfl | rfl | h
      · exact ⟨n / 262144, by omega, rfl⟩
      · exact ⟨n / 4096 % 64, by omega, rfl⟩
      · exact ⟨n / 64 % 64, by omega, rfl⟩
      · exact ⟨n % 64, by omega, rfl⟩
      · exact ih h
  | case2 x y n =>
      have hx := x.toNat_lt
      have hy := y.toNat_lt
      simp only [List.mem_cons, List.not_mem_nil, or_false] at h
      rcases h with rfl | rfl | rfl
      · exact ⟨n / 4096, by omega, rfl⟩
      · exact ⟨n / 64 % 64, by omega, rfl⟩
      · exact ⟨n % 64, by omega, rfl⟩
  | case3 x n =>
      have hx := x.toNat_lt
      simp only [List.mem_cons, List.not_mem_nil, or_false] at h
      rcases h with rfl | rfl
      · exact ⟨n / 64, by omega, rfl⟩
      · exact ⟨n % 64, by omega, rfl⟩
  | case4 => cases h

/-- What holds of the 64 digits holds of everything that is written with them. -/
theorem forall_mem_encode {a : Base64} {p : Char → Prop} (h : ∀ n < 64, p (a.digit n))
    (bytes : List UInt8) : ∀ c ∈ a.encode bytes, p c := by
  intro c hc
  obtain ⟨n, hn, rfl⟩ := exists_digit_of_mem_encode hc
  exact h n hn

theorem length_encode (a : Base64) (bytes : List UInt8) :
    (a.encode bytes).length = (4 * bytes.length + 2) / 3 := by
  fun_induction encode a bytes with
  | case1 x y z rest n ih =>
      simp only [List.length_cons, ih]
      omega
  | case2 x y n => simp
  | case3 x n => simp
  | case4 => rfl

theorem value?_digit (a : Base64) {n : Nat} (h : n < 64) : a.value? (a.digit n) = some n := by
  have hstandard : ∀ n < 64, standard.value? (standard.digit n) = some n := by decide
  have hurlSafe : ∀ n < 64, urlSafe.value? (urlSafe.digit n) = some n := by decide
  cases a with
  | standard => exact hstandard n h
  | urlSafe => exact hurlSafe n h

theorem lt_128_of_value? {a : Base64} {c : Char} (h : (a.value? c).isSome = true) :
    c.toNat < 128 := by
  have hbelow : ∀ {d : Char}, c ≤ d → d.toNat < 128 → c.toNat < 128 := fun hle hd =>
    Nat.lt_of_le_of_lt hle hd
  rw [value?] at h
  split at h
  · next hc => exact hbelow hc.2 (by decide)
  split at h
  · next hc => exact hbelow hc.2 (by decide)
  split at h
  · next hc => exact hbelow hc.2 (by decide)
  split at h
  · next hc => cases a <;> exact hc ▸ by decide
  split at h
  · next hc => cases a <;> exact hc ▸ by decide
  · cases h

/-- What holds of the digits among the ASCII characters holds of every digit. -/
theorem forall_of_value? {a : Base64} {p : Char → Prop}
    (h : ∀ n < 128, (a.value? (Char.ofNat n)).isSome = true → p (Char.ofNat n)) {c : Char}
    (hc : (a.value? c).isSome = true) : p c := by
  have hp := h c.toNat (lt_128_of_value? hc)
  rw [Char.ofNat_toNat] at hp
  exact hp hc

theorem toUInt8_of_eq {n : Nat} {x : UInt8} (h : n = x.toNat) : n.toUInt8 = x := by
  subst h
  exact UInt8.ofNat_toNat

/-- Reading undoes writing. -/
theorem decode_encode (a : Base64) (bytes : List UInt8) :
    a.decode (a.encode bytes) = some bytes := by
  fun_induction encode a bytes with
  | case1 x y z rest n ih =>
      have hx := x.toNat_lt
      have hy := y.toNat_lt
      have hz := z.toNat_lt
      have hsum : n / 262144 * 262144 + n / 4096 % 64 * 4096 + n / 64 % 64 * 64 + n % 64 = n := by
        omega
      have hbytes : (n / 65536).toUInt8 = x ∧ (n / 256 % 256).toUInt8 = y
          ∧ (n % 256).toUInt8 = z :=
        ⟨toUInt8_of_eq (by omega), toUInt8_of_eq (by omega), toUInt8_of_eq (by omega)⟩
      simp only [decode, value?_digit a (show n / 262144 < 64 by omega),
        value?_digit a (show n / 4096 % 64 < 64 by omega),
        value?_digit a (show n / 64 % 64 < 64 by omega),
        value?_digit a (show n % 64 < 64 by omega), ih, Option.bind_eq_bind, Option.bind_some,
        hsum, hbytes.1, hbytes.2.1, hbytes.2.2]
  | case2 x y n =>
      have hx := x.toNat_lt
      have hy := y.toNat_lt
      have hsum : n / 4096 * 4096 + n / 64 % 64 * 64 + n % 64 = n := by omega
      have hbytes : (n / 1024).toUInt8 = x ∧ (n / 4 % 256).toUInt8 = y :=
        ⟨toUInt8_of_eq (by omega), toUInt8_of_eq (by omega)⟩
      simp only [decode, value?_digit a (show n / 4096 < 64 by omega),
        value?_digit a (show n / 64 % 64 < 64 by omega),
        value?_digit a (show n % 64 < 64 by omega), Option.bind_eq_bind, Option.bind_some,
        hsum, hbytes.1, hbytes.2, if_pos (show n % 4 = 0 by omega)]
  | case3 x n =>
      have hx := x.toNat_lt
      have hsum : n / 64 * 64 + n % 64 = n := by omega
      have hbyte : (n / 16).toUInt8 = x := toUInt8_of_eq (by omega)
      simp only [decode, value?_digit a (show n / 64 < 64 by omega),
        value?_digit a (show n % 64 < 64 by omega), Option.bind_eq_bind, Option.bind_some,
        hsum, hbyte, if_pos (show n % 16 = 0 by omega)]
  | case4 => rfl

/-- A character with a value is the digit of this value. -/
theorem digit_of_value? {a : Base64} {c : Char} {n : Nat} (h : a.value? c = some n) :
    a.digit n = c ∧ n < 64 := by
  let p (a : Base64) (c : Char) := a.digit ((a.value? c).getD 0) = c ∧ (a.value? c).getD 0 < 64
  have hsome : (a.value? c).isSome = true := by rw [h]; rfl
  have hp : p a c := by
    cases a with
    | standard =>
        exact forall_of_value? (a := .standard) (p := p .standard) (by decide) hsome
    | urlSafe =>
        exact forall_of_value? (a := .urlSafe) (p := p .urlSafe) (by decide) hsome
  simp only [p, h, Option.getD_some] at hp
  exact hp

theorem toNat_toUInt8_of_lt {n : Nat} (h : n < 256) : n.toUInt8.toNat = n := by
  simpa using Nat.mod_eq_of_lt h

/-- Three bytes hold a number of 24 bits. -/
theorem sum_bytes {n : Nat} (h : n < 16777216) :
    (n / 65536).toUInt8.toNat * 65536 + (n / 256 % 256).toUInt8.toNat * 256
      + (n % 256).toUInt8.toNat = n := by
  rw [toNat_toUInt8_of_lt (Nat.div_lt_of_lt_mul h), toNat_toUInt8_of_lt (Nat.mod_lt _ (by decide)),
    toNat_toUInt8_of_lt (Nat.mod_lt _ (by decide))]
  omega

/-- Two bytes hold a number of 18 bits whose last two are zero. -/
theorem sum_bytes_of_pair {n : Nat} (h : n < 262144) (hlast : n % 4 = 0) :
    (n / 1024).toUInt8.toNat * 1024 + (n / 4 % 256).toUInt8.toNat * 4 = n := by
  rw [toNat_toUInt8_of_lt (Nat.div_lt_of_lt_mul h), toNat_toUInt8_of_lt (Nat.mod_lt _ (by decide))]
  omega

/-- Only what is written can be read. -/
theorem encode_of_decode {a : Base64} {cs : List Char} {bytes : List UInt8}
    (h : a.decode cs = some bytes) : cs = a.encode bytes := by
  fun_induction decode a cs generalizing bytes with
  | case1 c d e f rest ih =>
      simp only [Option.bind_eq_bind, Option.bind_eq_some_iff] at h
      obtain ⟨v, hv, w, hw, x, hx, y, hy, tail, htail, h⟩ := h
      obtain ⟨hc, hv64⟩ := digit_of_value? hv
      obtain ⟨hd, hw64⟩ := digit_of_value? hw
      obtain ⟨he, hx64⟩ := digit_of_value? hx
      obtain ⟨hf, hy64⟩ := digit_of_value? hy
      obtain rfl := Option.some.inj h
      generalize hn : v * 262144 + w * 4096 + x * 64 + y = n
      have hsum := sum_bytes (n := n) (by omega)
      have hdigits : n / 262144 = v ∧ n / 4096 % 64 = w ∧ n / 64 % 64 = x ∧ n % 64 = y := by omega
      simp only [encode, hsum, hdigits, hc, hd, he, hf, ← ih htail]
  | case2 c d e =>
      simp only [Option.bind_eq_bind, Option.bind_eq_some_iff] at h
      obtain ⟨v, hv, w, hw, x, hx, h⟩ := h
      obtain ⟨hc, hv64⟩ := digit_of_value? hv
      obtain ⟨hd, hw64⟩ := digit_of_value? hw
      obtain ⟨he, hx64⟩ := digit_of_value? hx
      split at h
      · next hlast =>
          obtain rfl := Option.some.inj h
          generalize hn : v * 4096 + w * 64 + x = n at hlast
          have hsum := sum_bytes_of_pair (n := n) (by omega) hlast
          have hdigits : n / 4096 = v ∧ n / 64 % 64 = w ∧ n % 64 = x := by omega
          simp only [encode, hsum, hdigits, hc, hd, he]
      · cases h
  | case3 c d =>
      simp only [Option.bind_eq_bind, Option.bind_eq_some_iff] at h
      obtain ⟨v, hv, w, hw, h⟩ := h
      obtain ⟨hc, hv64⟩ := digit_of_value? hv
      obtain ⟨hd, hw64⟩ := digit_of_value? hw
      split at h
      · next hlast =>
          obtain rfl := Option.some.inj h
          generalize hn : v * 64 + w = n at hlast
          have hsum : (n / 16).toUInt8.toNat * 16 = n := by
            rw [toNat_toUInt8_of_lt (by omega)]
            omega
          have hdigits : n / 64 = v ∧ n % 64 = w := by omega
          simp only [encode, hsum, hdigits, hc, hd]
      · cases h
  | case4 => cases h
  | case5 =>
      obtain rfl := Option.some.inj h
      rfl

theorem decode_eq_some_iff {a : Base64} {cs : List Char} {bytes : List UInt8} :
    a.decode cs = some bytes ↔ cs = a.encode bytes := by
  constructor
  · exact encode_of_decode
  · rintro rfl
    exact decode_encode a bytes

/-! ## One byte left over -/

/-- The last digit of a text whose last group holds one byte. -/
theorem getLast?_encode {a : Base64} {bytes : List UInt8} (h : bytes.length % 3 = 1) :
    ∃ n < 64, n % 16 = 0 ∧ (a.encode bytes).getLast? = some (a.digit n) := by
  fun_induction encode a bytes with
  | case1 x y z rest n ih =>
      have hrest : rest.length % 3 = 1 := by
        simp only [List.length_cons] at h
        omega
      obtain ⟨last, hlast64, hspare, hlast⟩ := ih hrest
      refine ⟨last, hlast64, hspare, ?_⟩
      simp only [List.getLast?_cons, hlast, Option.getD_some]
  | case2 x y n => cases h
  | case3 x n => exact ⟨n % 64, by omega, by omega, rfl⟩
  | case4 => cases h

/-- Digits can be read if there are two more than full groups, and the last one has
zeros for its spare bits. -/
theorem exists_decode {a : Base64} {cs : List Char} {last : Char} {n : Nat}
    (hdigits : ∀ c ∈ cs, (a.value? c).isSome = true) (hlength : cs.length % 4 = 2)
    (hlast : cs.getLast? = some last) (hvalue : a.value? last = some n) (hspare : n % 16 = 0) :
    ∃ bytes, a.decode cs = some bytes := by
  fun_induction decode a cs with
  | case1 c d e f rest ih =>
      have hrest : rest.length % 4 = 2 := by
        simp only [List.length_cons] at hlength
        omega
      have hsame : rest.getLast? = some last := by
        cases rest with
        | nil => cases hrest
        | cons g others => simpa only [List.getLast?_cons_cons] using hlast
      simp only [List.forall_mem_cons] at hdigits
      obtain ⟨hc, hd, he, hf, hothers⟩ := hdigits
      obtain ⟨v, hv⟩ := Option.isSome_iff_exists.mp hc
      obtain ⟨w, hw⟩ := Option.isSome_iff_exists.mp hd
      obtain ⟨x, hx⟩ := Option.isSome_iff_exists.mp he
      obtain ⟨y, hy⟩ := Option.isSome_iff_exists.mp hf
      obtain ⟨tail, htail⟩ := ih hothers hrest hsame
      simp only [hv, hw, hx, hy, htail, Option.bind_eq_bind, Option.bind_some, Option.some.injEq,
        exists_eq']
  | case2 c d e => cases hlength
  | case3 c d =>
      obtain rfl : d = last := by simpa using hlast
      obtain ⟨v, hv⟩ := Option.isSome_iff_exists.mp (hdigits c (List.mem_cons_self ..))
      have hzero : (v * 64 + n) % 16 = 0 := by omega
      simp only [hv, hvalue, Option.bind_eq_bind, Option.bind_some, if_pos hzero,
        Option.some.injEq, exists_eq']
  | case4 => cases hlength
  | case5 => cases hlength

end MenuHost.Base64
