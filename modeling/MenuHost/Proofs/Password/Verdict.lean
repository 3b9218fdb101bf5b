import MenuHost.Proofs.Password.Complete

/-!
# What a stored record says about a candidate

`verify` has one answer for a candidate that does not match and another
for a record that cannot be used. A candidate is accepted exactly if the
stored text is that of a complete record and the candidate has its output
as digest.

A text that ends too early is no complete record, and yet it is not found
malformed: the digest is never made, and the candidate just does not
match (`Unfinished`). Apart from this, a mismatch says what it seems to
say. The verdict is worked out once for each of the three kinds of texts
(`verify_complete`, `verify_unfinished`, `verify_malformed`), and the rest
follows from these.

For new records the two answers are told apart by the digests alone.
-/

namespace MenuHost.Password

/-! ## Three kinds of texts -/

/-- A well-formed record that ends before its output, and may end before its
salt. -/
def Unfinished (stored : String) : Prop :=
  ∃ r : Record, r.WellFormed ∧ r.output = none ∧ r.text = stored

theorem verify_complete {c : CompleteRecord} (h : c.Valid) {candidate : String}
    (hshort : candidate.utf8ByteSize < passwordLimit) :
    verify c.text candidate =
      if c.digest candidate = c.output then .ok () else .error .mismatch := by
  have hparse : Record.parse c.text = .ok c.record := parse_eq_ok_iff.mpr ⟨h.wellFormed, rfl⟩
  have hsalt : c.record.salt = some (Base64.standard.encode c.salt) := rfl
  have houtput : c.record.output = some c.output := rfl
  have hleast : ¬c.recipe.salt.length < leastSalt := Nat.not_lt.mpr h.salt.1
  have hdigest : c.recipe.digest candidate = .ok (c.digest candidate) := by
    rw [Recipe.digest, if_neg (Nat.not_le.mpr hshort), if_neg hleast]
    rfl
  rw [verify, hparse]
  simp only [hsalt, houtput, CompleteRecord.recipe_record h, hdigest]

theorem verify_unfinished {stored : String} (h : Unfinished stored) (candidate : String) :
    verify stored candidate = .error .mismatch := by
  obtain ⟨r, hr, houtput, rfl⟩ := h
  rw [verify, parse_eq_ok_iff.mpr ⟨hr, rfl⟩]
  simp only [houtput]
  cases r.salt <;> rfl

/-- Every other text is malformed, for a reason that the candidate has no part in. -/
theorem verify_malformed {stored : String}
    (hcomplete : ∀ c : CompleteRecord, c.Valid → c.text ≠ stored)
    (hunfinished : ¬Unfinished stored) :
    ∃ d, ∀ candidate, candidate.utf8ByteSize < passwordLimit →
      verify stored candidate = .error (.malformed d) := by
  cases hparse : Record.parse stored with
  | error d => exact ⟨d, fun candidate _ => by rw [verify, hparse]⟩
  | ok r =>
      obtain ⟨hr, rfl⟩ := parse_eq_ok_iff.mp hparse
      obtain ⟨output, houtput⟩ : ∃ output, r.output = some output :=
        Option.ne_none_iff_exists'.mp fun hnone => hunfinished ⟨r, hr, hnone, rfl⟩
      obtain ⟨cs, hsalt⟩ : ∃ cs, r.salt = some cs :=
        Option.ne_none_iff_exists'.mp fun hnone => by simp [hr.order hnone] at houtput
      cases hrecipe : r.recipe cs output.length with
      | error d =>
          refine ⟨d, fun candidate _ => ?_⟩
          rw [verify, hparse]
          simp only [hsalt, houtput, hrecipe]
      | ok recipe =>
          have hleast : recipe.salt.length < leastSalt := by
            refine Nat.not_le.mp fun hleast => ?_
            obtain ⟨c, hc, rfl⟩ :=
              CompleteRecord.exists_of_recipe hr hsalt houtput hrecipe hleast
            exact hcomplete c hc rfl
          refine ⟨.salt .tooShort, fun candidate hshort => ?_⟩
          rw [verify, hparse]
          simp only [hsalt, houtput, hrecipe, Recipe.digest, if_neg (Nat.not_le.mpr hshort),
            if_pos hleast]

/-! ## The verdict -/

/-- Every text is of one of the three kinds. -/
theorem kind_of_stored (stored : String) :
    (∃ c : CompleteRecord, c.Valid ∧ c.text = stored) ∨ Unfinished stored
      ∨ ∃ d, ∀ candidate, candidate.utf8ByteSize < passwordLimit →
          verify stored candidate = .error (.malformed d) := by
  by_cases hcomplete : ∃ c : CompleteRecord, c.Valid ∧ c.text = stored
  · exact Or.inl hcomplete
  · by_cases hunfinished : Unfinished stored
    · exact Or.inr (Or.inl hunfinished)
    · refine Or.inr (Or.inr (verify_malformed ?_ hunfinished))
      exact fun c hc htext => hcomplete ⟨c, hc, htext⟩

section Verdicts

variable {stored candidate : String}

theorem verify_eq_ok_iff (hshort : candidate.utf8ByteSize < passwordLimit) :
    verify stored candidate = .ok () ↔
      ∃ c : CompleteRecord, c.Valid ∧ c.text = stored ∧ c.digest candidate = c.output := by
  constructor
  · intro h
    rcases kind_of_stored stored with ⟨c, hc, rfl⟩ | hunfinished | ⟨d, hd⟩
    · rw [verify_complete hc hshort] at h
      by_cases hdigest : c.digest candidate = c.output
      · exact ⟨c, hc, rfl, hdigest⟩
      · rw [if_neg hdigest] at h
        cases h
    · rw [verify_unfinished hunfinished] at h
      cases h
    · rw [hd candidate hshort] at h
      cases h
  · rintro ⟨c, hc, rfl, hdigest⟩
    rw [verify_complete hc hshort, if_pos hdigest]

theorem verify_eq_mismatch_iff (hshort : candidate.utf8ByteSize < passwordLimit) :
    verify stored candidate = .error .mismatch ↔
      (∃ c : CompleteRecord, c.Valid ∧ c.text = stored ∧ c.digest candidate ≠ c.output)
        ∨ Unfinished stored := by
  constructor
  · intro h
    rcases kind_of_stored stored with ⟨c, hc, rfl⟩ | hunfinished | ⟨d, hd⟩
    · rw [verify_complete hc hshort] at h
      by_cases hdigest : c.digest candidate = c.output
      · rw [if_pos hdigest] at h
        cases h
      · exact Or.inl ⟨c, hc, rfl, hdigest⟩
    · exact Or.inr hunfinished
    · rw [hd candidate hshort] at h
      cases h
  · rintro (⟨c, hc, rfl, hdigest⟩ | hunfinished)
    · rw [verify_complete hc hshort, if_neg hdigest]
    · exact verify_unfinished hunfinished candidate

theorem verify_eq_malformed_iff (hshort : candidate.utf8ByteSize < passwordLimit) :
    (∃ d, verify stored candidate = .error (.malformed d)) ↔
      (∀ c : CompleteRecord, c.Valid → c.text ≠ stored) ∧ ¬Unfinished stored := by
  constructor
  · rintro ⟨d, hd⟩
    constructor
    · rintro c hc rfl
      rw [verify_complete hc hshort] at hd
      split at hd <;> cases hd
    · intro hunfinished
      rw [verify_unfinished hunfinished] at hd
      cases hd
  · rintro ⟨hcomplete, hunfinished⟩
    obtain ⟨d, hd⟩ := verify_malformed hcomplete hunfinished
    exact ⟨d, hd candidate hshort⟩

/-- What is wrong with a record is the same for every candidate. -/
theorem verify_eq_malformed_of_other {d : Defect}
    (hshort : candidate.utf8ByteSize < passwordLimit)
    (h : verify stored candidate = .error (.malformed d)) {other : String}
    (hother : other.utf8ByteSize < passwordLimit) :
    verify stored other = .error (.malformed d) := by
  obtain ⟨hcomplete, hunfinished⟩ := (verify_eq_malformed_iff hshort).mp ⟨d, h⟩
  obtain ⟨e, he⟩ := verify_malformed hcomplete hunfinished
  rw [← h, he candidate hshort, he other hother]

theorem verify_ne_hash (d : Defect) : verify stored candidate ≠ .error (.hash d) := by
  intro h
  unfold verify at h
  split at h
  · cases h
  · split at h
    · split at h
      · cases h
      · split at h
        · cases h
        · cases h
        · split at h <;> cases h
    · cases h

end Verdicts

/-- **A broken record and a wrong password.** A candidate is accepted exactly if the
stored text is that of a complete record and the candidate has its output as digest.
It does not match exactly if it has another digest or the text is a record that ends
too early. Any other text is malformed, and neither this nor what is wrong with it
depends on the candidate. That a password could not be hashed is never the answer. -/
theorem verify_tells_apart (stored : String) {candidate : String}
    (hshort : candidate.utf8ByteSize < passwordLimit) :
    (verify stored candidate = .ok () ↔
        ∃ c : CompleteRecord, c.Valid ∧ c.text = stored ∧ c.digest candidate = c.output)
      ∧ (verify stored candidate = .error .mismatch ↔
        (∃ c : CompleteRecord, c.Valid ∧ c.text = stored ∧ c.digest candidate ≠ c.output)
          ∨ Unfinished stored)
      ∧ ((∃ d, verify stored candidate = .error (.malformed d)) ↔
        (∀ c : CompleteRecord, c.Valid → c.text ≠ stored) ∧ ¬Unfinished stored)
      ∧ (∀ d, verify stored candidate = .error (.malformed d) →
        ∀ other : String, other.utf8ByteSize < passwordLimit →
          verify stored other = .error (.malformed d))
      ∧ ∀ d, verify stored candidate ≠ .error (.hash d) := by
  refine ⟨verify_eq_ok_iff hshort, verify_eq_mismatch_iff hshort, verify_eq_malformed_iff hshort,
    ?_, verify_ne_hash⟩
  intro d hd other hother
  exact verify_eq_malformed_of_other hshort hd hother

/-- A record that ends after its salt does not match, and is not malformed. -/
theorem verify_tells_apart_unfinished :
    "wonderland".utf8ByteSize < passwordLimit
      ∧ Unfinished "$argon2id$v=19$m=8,t=1,p=1$c2FsdHNhbHQ"
      ∧ verify "$argon2id$v=19$m=8,t=1,p=1$c2FsdHNhbHQ" "wonderland" = .error .mismatch
      ∧ ¬∃ d, verify "$argon2id$v=19$m=8,t=1,p=1$c2FsdHNhbHQ" "wonderland"
          = .error (.malformed d) := by
  have hshort : "wonderland".utf8ByteSize < passwordLimit := by decide
  have hparse : Record.parse "$argon2id$v=19$m=8,t=1,p=1$c2FsdHNhbHQ" = .ok
      { algorithm := "argon2id".toList, version := some 19,
        parameters := [(['m'], ['8']), (['t'], ['1']), (['p'], ['1'])],
        salt := some "c2FsdHNhbHQ".toList, output := none } := rfl
  obtain ⟨hwellFormed, htext⟩ := parse_eq_ok_iff.mp hparse
  have hunfinished : Unfinished "$argon2id$v=19$m=8,t=1,p=1$c2FsdHNhbHQ" :=
    ⟨_, hwellFormed, rfl, htext.symm⟩
  obtain ⟨-, hmismatch, hmalformed, -⟩ :=
    verify_tells_apart "$argon2id$v=19$m=8,t=1,p=1$c2FsdHNhbHQ" hshort
  exact ⟨hshort, hunfinished, hmismatch.mpr (Or.inr hunfinished),
    fun h => (hmalformed.mp h).2 hunfinished⟩

/-! ## New records -/

/-- The digest in a new record of a password. -/
def newDigest (salt : Salt) (password : String) : List UInt8 :=
  Argon2.digest .hybrid .v13 ⟨19456, 2, 1⟩ 32 (Text.Utf8.encode password) salt.toList []

theorem digest_newRecipe (salt : Salt) {password : String}
    (h : password.utf8ByteSize < passwordLimit) :
    (newRecipe salt).digest password = .ok (newDigest salt password) := by
  rw [Recipe.digest, if_neg (Nat.not_le.mpr h), if_neg (length_salt_newRecipe salt)]
  rfl

theorem hash_eq (salt : Salt) {password : String} (h : password.utf8ByteSize < passwordLimit) :
    hash salt password
      = .ok (Record.write "argon2id" .v13 defaultCosts salt.toList (newDigest salt password)) := by
  rw [hash, digest_newRecipe salt h]

theorem length_newDigest (salt : Salt) {password : String}
    (h : password.utf8ByteSize < passwordLimit) : (newDigest salt password).length = outputSize :=
  length_digest (digest_newRecipe salt h)

/-- The salt can be read off a record. -/
theorem salt_eq_of_write {salt other : Salt} {output output' : List UInt8}
    (houtput : output.length = outputSize) (houtput' : output'.length = outputSize)
    (h : Record.write "argon2id" .v13 defaultCosts other.toList output'
      = Record.write "argon2id" .v13 defaultCosts salt.toList output) : other = salt := by
  have hparse := parse_write other.length_toList houtput'
  rw [h, parse_write salt.length_toList houtput] at hparse
  have hsalt := Option.some.inj (congrArg Record.salt (Except.ok.inj hparse))
  have hbytes := congrArg Base64.standard.decode hsalt
  rw [Base64.decode_encode, Base64.decode_encode] at hbytes
  exact Vector.toList_inj.mp (Option.some.inj hbytes).symm

/-- **Hash, then verify.** Every password has a record under every salt. The record
accepts the candidates that have the same digest under its salt, the password among
them, and the others do not match; it is never malformed. Under another salt the
password has another record. -/
theorem hash_then_verify (salt : Salt) {password candidate : String}
    (hpassword : password.utf8ByteSize < passwordLimit)
    (hcandidate : candidate.utf8ByteSize < passwordLimit) :
    ∃ stored, hash salt password = .ok stored
      ∧ (verify stored candidate = .ok () ↔ newDigest salt candidate = newDigest salt password)
      ∧ (verify stored candidate = .error .mismatch ↔
        newDigest salt candidate ≠ newDigest salt password)
      ∧ (∀ d, verify stored candidate ≠ .error (.malformed d))
      ∧ verify stored password = .ok ()
      ∧ ∀ other : Salt, other ≠ salt → hash other password ≠ .ok stored := by
  have hstored := hash_eq salt hpassword
  have hlength := length_newDigest salt hpassword
  have hok : ∀ {q : String}, q.utf8ByteSize < passwordLimit →
      (verify (Record.write "argon2id" .v13 defaultCosts salt.toList (newDigest salt password)) q
        = .ok () ↔ newDigest salt q = newDigest salt password) := by
    intro q hq
    rw [verify_write hlength, digest_newRecipe salt hq, Except.ok.injEq]
  have hverdict := verify_of_isRecord ⟨salt, password, hstored⟩ candidate
  refine ⟨_, hstored, hok hcandidate, ?_, ?_, (hok hpassword).mpr rfl, ?_⟩
  · rw [ne_eq, ← hok hcandidate]
    rcases hverdict with hverdict | hverdict <;> simp [hverdict]
  · intro d hd
    rcases hverdict with hverdict | hverdict
    all_goals
      rw [hverdict] at hd
      cases hd
  · intro other hother hsame
    rw [hash_eq other hpassword] at hsame
    exact hother (salt_eq_of_write hlength (length_newDigest other hpassword)
      (Except.ok.inj hsame))

/-- The same password twice, under two salts. -/
theorem hash_then_verify_two_salts :
    let salt (n : Nat) : Salt := Vector.ofFn fun i => (n + i).toUInt8
    "correct horse battery".utf8ByteSize < passwordLimit ∧ ∃ stored,
      hash (salt 0) "correct horse battery" = .ok stored
        ∧ verify stored "correct horse battery" = .ok ()
        ∧ hash (salt 1) "correct horse battery" ≠ .ok stored := by
  intro salt
  have hshort : "correct horse battery".utf8ByteSize < passwordLimit := by decide
  obtain ⟨stored, hhash, -, -, -, haccepted, hother⟩ := hash_then_verify (salt 0) hshort hshort
  refine ⟨hshort, stored, hhash, haccepted, hother (salt 1) fun h => ?_⟩
  have hfirst : Nat.toUInt8 1 = Nat.toUInt8 0 := congrArg (fun s => s[0]) h
  exact absurd hfirst (by decide)

end MenuHost.Password
