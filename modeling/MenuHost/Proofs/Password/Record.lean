import MenuHost.Password.Hash
import MenuHost.Proofs.Base64

/-!
# Records that this library writes, read back

`Record.write` puts together what `Record.parse` takes apart. For the
records of `hash`, with any salt and any output, `parse_write` says which
fields come back and `recipe_write` that they mean the recipe they were
made by. The rest of the library needs two consequences of this. A
candidate is accepted exactly when it has the recorded digest
(`verify_write`); and a record that `hash` made is never found malformed
(`verify_of_isRecord`), so there is one way only in which a password can
fail.
-/

namespace MenuHost.Password

/-! ## Base64 fields -/

/-- A digit is one byte long, may stand in a value, and separates nothing. -/
theorem digit_spec {c : Char} {bytes : List UInt8} (h : c ∈ Base64.standard.encode bytes) :
    c.utf8Size = 1 ∧ isValueChar c = true ∧ c ≠ '$' :=
  Base64.forall_mem_encode (p := fun c => c.utf8Size = 1 ∧ isValueChar c = true ∧ c ≠ '$')
    (by decide) bytes c h

theorem byteLength_of_forall {cs : List Char} (h : ∀ c ∈ cs, c.utf8Size = 1) :
    byteLength cs = cs.length := by
  have hfold : ∀ n, cs.foldl (fun n c => n + c.utf8Size) n = n + cs.length := by
    induction cs with
    | nil => exact fun n => rfl
    | cons c cs ih =>
        intro n
        rw [List.foldl_cons, ih (fun d hd => h d (List.mem_cons_of_mem _ hd)),
          h c (List.mem_cons_self ..), List.length_cons]
        omega
  rw [byteLength, hfold, Nat.zero_add]

theorem byteLength_encode (bytes : List UInt8) :
    byteLength (Base64.standard.encode bytes) = (4 * bytes.length + 2) / 3 := by
  rw [byteLength_of_forall fun c hc => (digit_spec hc).1, Base64.length_encode]

theorem find?_not_isValueChar (bytes : List UInt8) :
    (Base64.standard.encode bytes).find? (fun c => !isValueChar c) = none :=
  List.find?_eq_none.mpr fun c hc => by simp [(digit_spec hc).2.1]

theorem readBase64_encode {most : Nat} {bytes : List UInt8} (h : bytes.length ≤ most) :
    readBase64 most (Base64.standard.encode bytes) = .ok bytes := by
  have hlen : Base64.decodedLength ((4 * bytes.length + 2) / 3) ≤ most := by
    unfold Base64.decodedLength
    omega
  rw [readBase64, byteLength_encode, if_neg (Nat.not_lt.mpr hlen), Base64.decode_encode]

theorem readSalt_encode {bytes : List UInt8} (hleast : 3 ≤ bytes.length)
    (hmost : bytes.length ≤ 48) :
    readSalt (Base64.standard.encode bytes) = .ok (Base64.standard.encode bytes) := by
  rw [readSalt, byteLength_encode, if_neg (by omega), if_neg (by omega), find?_not_isValueChar]

theorem readOutput_encode {bytes : List UInt8} (hleast : 10 ≤ bytes.length)
    (hmost : bytes.length ≤ 64) :
    readOutput (Base64.standard.encode bytes) = .ok bytes := by
  rw [readOutput, readBase64_encode hmost]
  show (if bytes.length < 10 then _ else _) = _
  rw [if_neg (Nat.not_lt.mpr hleast)]

/-! ## Whole records -/

/-- The text of a record, field by field. -/
theorem toList_write (salt output : List UInt8) :
    (Record.write "argon2id" .v13 defaultCosts salt output).toList =
      [] ++ '$' :: ("argon2id".toList ++ '$' :: ("v=19".toList ++ '$' ::
        ("m=19456,t=2,p=1".toList ++ '$' :: (Base64.standard.encode salt ++ '$' ::
          Base64.standard.encode output)))) := by
  have hversion : (toString Version.v13.code).toList = "19".toList := by decide
  have hmemory : (toString defaultCosts.memory).toList = "19456".toList := by decide
  have hpasses : (toString defaultCosts.passes).toList = "2".toList := by decide
  have hlanes : (toString defaultCosts.lanes).toList = "1".toList := by decide
  delta Record.write
  simp only [String.toList_append, String.toList_ofList, hversion, hmemory, hpasses, hlanes]
  simp

/-- The fields of a record made by `hash`. -/
def writtenRecord (salt output : List UInt8) : Record where
  algorithm := "argon2id".toList
  version := some 19
  parameters := [("m".toList, "19456".toList), ("t".toList, "2".toList), ("p".toList, "1".toList)]
  salt := some (Base64.standard.encode salt)
  output := some output

theorem parse_write {salt output : List UInt8} (hsalt : salt.length = saltSize)
    (houtput : output.length = outputSize) :
    Record.parse (Record.write "argon2id" .v13 defaultCosts salt output) =
      .ok (writtenRecord salt output) := by
  have hdigits : ∀ bytes, '$' ∉ Base64.standard.encode bytes := fun bytes h =>
    (digit_spec h).2.2 rfl
  have htail : readTail [Base64.standard.encode salt, Base64.standard.encode output]
      = .ok (some (Base64.standard.encode salt), some output) := by
    unfold saltSize at hsalt
    unfold outputSize at houtput
    rw [readTail, readSalt_encode (by omega) (by omega), readOutput_encode (by omega) (by omega)]
    rfl
  have hname : readName "argon2id".toList = .ok "argon2id".toList := rfl
  have hversion : ∀ fields, readVersion ("v=19".toList :: fields) = .ok (some 19, fields) :=
    fun fields => rfl
  have hparameters : ∀ fields, readParameterField ("m=19456,t=2,p=1".toList :: fields)
      = .ok ((writtenRecord salt output).parameters, fields) := fun fields => rfl
  rw [Record.parse, toList_write,
    List.splitOn_append_cons_self_of_not_mem (by decide),
    List.splitOn_append_cons_self_of_not_mem (by decide),
    List.splitOn_append_cons_self_of_not_mem (by decide),
    List.splitOn_append_cons_self_of_not_mem (by decide),
    List.splitOn_append_cons_self_of_not_mem (hdigits _),
    List.splitOn_eq_singleton (hdigits _)]
  simp only [hname, hversion, hparameters, htail, bind, Except.bind]
  rfl

/-- The fields mean the recipe they were made by. -/
theorem recipe_write (salt : Salt) (output : List UInt8) :
    (writtenRecord salt.toList output).recipe (Base64.standard.encode salt.toList) outputSize =
      .ok (newRecipe salt) := by
  have hsalt : readBase64 64 (Base64.standard.encode salt.toList) = .ok salt.toList :=
    readBase64_encode (by rw [salt.length_toList]; decide)
  have hcosts : readCosts (writtenRecord salt.toList output).parameters
      = .ok (defaultCosts, []) := rfl
  rw [Record.recipe, hcosts]
  show (readBase64 64 (Base64.standard.encode salt.toList) >>= _) = _
  rw [hsalt]
  rfl

/-! ## Checking candidates -/

theorem length_longDigest {size : Nat} (h : size ≤ 64) (message : List UInt8) :
    (Argon2.longDigest size message).length = size := by
  simp only [Argon2.longDigest, if_pos h]
  exact Blake2b.length_digest h _

theorem length_digest {salt : Salt} {password : String} {output : List UInt8}
    (h : (newRecipe salt).digest password = .ok output) : output.length = outputSize := by
  unfold Recipe.digest at h
  split at h
  · cases h
  · split at h
    · cases h
    · obtain rfl := Except.ok.inj h
      rw [Argon2.digest]
      exact length_longDigest (show outputSize ≤ 64 by decide) _

/-- A complete record with a recipe accepts the candidates that have its output
as digest. -/
theorem verify_iff {stored candidate : String} {record : Record} {salt : List Char}
    {output : List UInt8} {recipe : Recipe} (hparse : Record.parse stored = .ok record)
    (hsalt : record.salt = some salt) (houtput : record.output = some output)
    (hrecipe : record.recipe salt output.length = .ok recipe) :
    verify stored candidate = .ok () ↔ recipe.digest candidate = .ok output := by
  rw [verify, hparse]
  simp only [hsalt, houtput, hrecipe]
  cases recipe.digest candidate with
  | error d => cases d <;> simp
  | ok digest => by_cases heq : digest = output <;> simp [heq]

/-- It refuses the others as mismatches, where only their length can be wrong. -/
theorem verify_of_recipe {stored candidate : String} {record : Record} {salt : List Char}
    {output : List UInt8} {recipe : Recipe} (hparse : Record.parse stored = .ok record)
    (hsalt : record.salt = some salt) (houtput : record.output = some output)
    (hrecipe : record.recipe salt output.length = .ok recipe)
    (hdefect : ∀ d, recipe.digest candidate = .error d → d = .password) :
    verify stored candidate = .ok () ∨ verify stored candidate = .error .mismatch := by
  rw [verify, hparse]
  simp only [hsalt, houtput, hrecipe]
  cases hdigest : recipe.digest candidate with
  | error d =>
      obtain rfl := hdefect d hdigest
      exact Or.inr rfl
  | ok digest => by_cases heq : digest = output <;> simp [heq]

theorem verify_write {salt : Salt} {output : List UInt8} (houtput : output.length = outputSize)
    (candidate : String) :
    verify (Record.write "argon2id" .v13 defaultCosts salt.toList output) candidate = .ok () ↔
      (newRecipe salt).digest candidate = .ok output := by
  have hrecipe := recipe_write salt output
  rw [← houtput] at hrecipe
  exact verify_iff (parse_write salt.length_toList houtput) rfl rfl hrecipe

theorem length_salt_newRecipe (salt : Salt) : ¬(newRecipe salt).salt.length < leastSalt := by
  rw [newRecipe, salt.length_toList]
  decide

/-- Under the recipe of a new record only the length of a password can be wrong. -/
theorem eq_password_of_digest {salt : Salt} {candidate : String} {d : Defect}
    (h : (newRecipe salt).digest candidate = .error d) : d = .password := by
  rw [Recipe.digest, if_neg (length_salt_newRecipe salt)] at h
  split at h
  · exact (Except.error.inj h).symm
  · cases h

theorem exists_output_of_hash {salt : Salt} {password stored : String}
    (h : hash salt password = .ok stored) :
    ∃ output, (newRecipe salt).digest password = .ok output
      ∧ stored = Record.write "argon2id" .v13 defaultCosts salt.toList output := by
  rw [hash] at h
  generalize (newRecipe salt).digest password = digest at h ⊢
  cases digest with
  | error d => cases h
  | ok output => exact ⟨output, rfl, (Except.ok.inj h).symm⟩

/-- A text that `hash` made of some password. -/
def IsRecord (stored : String) : Prop :=
  ∃ salt password, hash salt password = .ok stored

/-- Such a text is never found malformed: a candidate is accepted or does not
match. -/
theorem verify_of_isRecord {stored : String} (h : IsRecord stored) (candidate : String) :
    verify stored candidate = .ok () ∨ verify stored candidate = .error .mismatch := by
  obtain ⟨salt, password, hhash⟩ := h
  obtain ⟨output, hdigest, hstored⟩ := exists_output_of_hash hhash
  have hrecipe := recipe_write salt output
  rw [← length_digest hdigest] at hrecipe
  rw [hstored]
  exact verify_of_recipe (parse_write salt.length_toList (length_digest hdigest)) rfl rfl hrecipe
    fun d => eq_password_of_digest

/-- A short enough password has a record, and the record accepts it. -/
theorem exists_record (salt : Salt) {password : String}
    (h : password.utf8ByteSize < passwordLimit) :
    ∃ record, hash salt password = .ok record ∧ verify record password = .ok () := by
  obtain ⟨output, hdigest⟩ : ∃ output, (newRecipe salt).digest password = .ok output :=
    ⟨_, by rw [Recipe.digest, if_neg (Nat.not_le.mpr h), if_neg (length_salt_newRecipe salt)]⟩
  have hlength := length_digest hdigest
  exact ⟨_, by rw [hash, hdigest], (verify_write hlength password).mpr hdigest⟩

end MenuHost.Password
