import MenuHost.Proofs.Password.Grammar

/-!
# Complete records

A record has fields; a digest needs a variant, costs, a salt. This is the
way from the one to the other, described from its end: a `CompleteRecord`
is what is digested, its `record` and its `text` are computed from it,
and `Valid` gives the bounds within which there is such a text at all. The
readers of parameters, costs and versions are traded for this description
one by one, and `recipe_record` and `exists_of_recipe` put them together.
So the records with a recipe are those of valid complete records, but
for the length of the salt, which is looked at last.
-/

namespace MenuHost.Password

/-! ## Parameters and costs -/

/-- What a parameter asks for. -/
inductive Parameter where
  | memory (n : Nat)
  | passes (n : Nat)
  | lanes (n : Nat)
  | keyId (bytes : List UInt8)
  | associated (bytes : List UInt8)
deriving Repr, DecidableEq

def Parameter.name : Parameter → String
  | .memory _ => "m"
  | .passes _ => "t"
  | .lanes _ => "p"
  | .keyId _ => "keyid"
  | .associated _ => "data"

def Parameter.value : Parameter → List Char
  | .memory n | .passes n | .lanes n => Nat.toDigits 10 n
  | .keyId bytes | .associated bytes => Base64.standard.encode bytes

def Parameter.field (p : Parameter) : List Char × List Char :=
  (p.name.toList, p.value)

/-- Numbers are below 2³², and bytes are few. -/
def Parameter.Valid : Parameter → Prop
  | .memory n | .passes n | .lanes n => n < decimalLimit
  | .keyId bytes => bytes.length ≤ 8
  | .associated bytes => bytes.length ≤ 32

/-- A parameter replaces what was asked for before. -/
def Parameter.put (s : Costs × List UInt8) : Parameter → Costs × List UInt8
  | .memory n => ({ s.1 with memory := n }, s.2)
  | .passes n => ({ s.1 with passes := n }, s.2)
  | .lanes n => ({ s.1 with lanes := n }, s.2)
  | .keyId _ => s
  | .associated bytes => (s.1, bytes)

/-- The costs and the associated data that parameters ask for together. -/
def settings (ps : List Parameter) : Costs × List UInt8 :=
  ps.foldl Parameter.put (defaultCosts, [])

theorem ofList_eq_iff {cs : List Char} {s : String} : String.ofList cs = s ↔ cs = s.toList := by
  constructor
  · rintro rfl
    exact String.toList_ofList.symm
  · rintro rfl
    exact String.ofList_toList

theorem number_eq_ok_iff {σ : Type} {cs : List Char} {put : Nat → σ} {s : σ} :
    (readDecimal cs >>= fun n => .ok (put n)) = .ok s ↔
      ∃ n, n < decimalLimit ∧ cs = Nat.toDigits 10 n ∧ s = put n := by
  simp only [bind_eq_ok_iff, readDecimal_eq_ok_iff, Except.ok.injEq]
  constructor
  · rintro ⟨n, ⟨hcs, hlimit⟩, rfl⟩
    exact ⟨n, hlimit, hcs, rfl⟩
  · rintro ⟨n, hlimit, hcs, rfl⟩
    exact ⟨n, ⟨hcs, hlimit⟩, rfl⟩

theorem bytes_eq_ok_iff {σ : Type} {most : Nat} {cs : List Char} {put : List UInt8 → σ} {s : σ} :
    (readBase64 most cs >>= fun bytes => .ok (put bytes)) = .ok s ↔
      ∃ bytes, bytes.length ≤ most ∧ cs = Base64.standard.encode bytes ∧ s = put bytes := by
  simp only [bind_eq_ok_iff, readBase64_eq_ok_iff, Except.ok.injEq]
  constructor
  · rintro ⟨bytes, ⟨hcs, hmost⟩, rfl⟩
    exact ⟨bytes, hmost, hcs, rfl⟩
  · rintro ⟨bytes, hmost, hcs, rfl⟩
    exact ⟨bytes, ⟨hcs, hmost⟩, rfl⟩

/-- A list of parameters is read if each of them means something, and then all of
them are put one after the other. -/
theorem readCosts_eq_ok_iff {ps : List (List Char × List Char)} {s : Costs × List UInt8} :
    readCosts ps = .ok s ↔
      ∃ qs : List Parameter, ((∀ q ∈ qs, q.Valid) ∧ ps = qs.map Parameter.field)
        ∧ s = settings qs := by
  simp only [← forall₂_map_iff]
  refine foldlM_eq_ok_iff fun s p t => ?_
  obtain ⟨costs, associated⟩ := s
  obtain ⟨name, value⟩ := p
  constructor
  · intro h
    simp only at h
    split at h
    · next hname =>
        obtain ⟨n, hlimit, hvalue, rfl⟩ := number_eq_ok_iff.mp h
        exact ⟨.memory n, ⟨hlimit, Prod.ext (ofList_eq_iff.mp hname) hvalue⟩, rfl⟩
    · next hname =>
        obtain ⟨n, hlimit, hvalue, rfl⟩ := number_eq_ok_iff.mp h
        exact ⟨.passes n, ⟨hlimit, Prod.ext (ofList_eq_iff.mp hname) hvalue⟩, rfl⟩
    · next hname =>
        obtain ⟨n, hlimit, hvalue, rfl⟩ := number_eq_ok_iff.mp h
        exact ⟨.lanes n, ⟨hlimit, Prod.ext (ofList_eq_iff.mp hname) hvalue⟩, rfl⟩
    · next hname =>
        obtain ⟨bytes, hmost, hvalue, rfl⟩ := bytes_eq_ok_iff.mp h
        exact ⟨.keyId bytes, ⟨hmost, Prod.ext (ofList_eq_iff.mp hname) hvalue⟩, rfl⟩
    · next hname =>
        obtain ⟨bytes, hmost, hvalue, rfl⟩ := bytes_eq_ok_iff.mp h
        exact ⟨.associated bytes, ⟨hmost, Prod.ext (ofList_eq_iff.mp hname) hvalue⟩, rfl⟩
    · cases h
  · rintro ⟨q, ⟨hvalid, hfield⟩, rfl⟩
    obtain ⟨rfl, rfl⟩ := Prod.mk.inj hfield
    cases q with
    | memory n | passes n | lanes n =>
        simp only [Parameter.name, String.ofList_toList]
        exact number_eq_ok_iff.mpr ⟨n, hvalid, rfl, rfl⟩
    | keyId bytes | associated bytes =>
        simp only [Parameter.name, String.ofList_toList]
        exact bytes_eq_ok_iff.mpr ⟨bytes, hvalid, rfl, rfl⟩

/-- What a digest admits as costs. -/
structure Costs.Admitted (c : Costs) : Prop where
  memory : 8 ≤ c.memory
  room : 8 * c.lanes ≤ c.memory
  passes : 1 ≤ c.passes
  lanes : 1 ≤ c.lanes ∧ c.lanes < laneLimit

/-- The memory is compared in 32 bits, which is no loss below the limit of the
lanes. -/
theorem checkCosts_eq_ok_iff {c : Costs} : checkCosts c = .ok () ↔ c.Admitted := by
  unfold checkCosts
  constructor
  · intro h
    split at h
    · cases h
    · split at h
      · cases h
      · next hleast hlanes =>
          have hlimit : c.lanes < 16777216 := Nat.not_le.mp hlanes
          unfold decimalLimit at hleast
          exact ⟨by omega, by omega, by omega, by omega, Nat.not_le.mp hlanes⟩
  · rintro ⟨hmemory, hroom, hpasses, hleast, hmost⟩
    have hlimit : c.lanes < 16777216 := hmost
    have hleast : ¬(c.memory < 8 ∨ c.memory < c.lanes * 8 % decimalLimit ∨ c.passes < 1
        ∨ c.lanes < 1) := by
      unfold decimalLimit
      omega
    rw [if_neg hleast, if_neg (Nat.not_le.mpr hmost)]

/-! ## Variants and versions -/

def Variant.name : Variant → String
  | .dataDependent => "argon2d"
  | .dataIndependent => "argon2i"
  | .hybrid => "argon2id"

theorem Variant.isName_name (v : Variant) : IsName v.name.toList := by
  cases v with
  | _ => exact (readName_eq_ok_iff.mp rfl).1

theorem readVariant_eq_ok_iff {cs : List Char} {v : Variant} :
    readVariant cs = .ok v ↔ cs = v.name.toList := by
  unfold readVariant
  rw [← ofList_eq_iff]
  constructor
  · intro h
    split at h
    · next hname =>
        cases h
        exact hname
    · next hname =>
        cases h
        exact hname
    · next hname =>
        cases h
        exact hname
    · cases h
  · intro h
    rw [h]
    cases v <;> rfl

theorem readVersionCode_eq_ok_iff {n : Option Nat} {v : Version} :
    readVersionCode n = .ok v ↔ ∃ given : Option Version, n = given.map Version.code
      ∧ v = given.getD .v13 := by
  constructor
  · intro h
    unfold readVersionCode at h
    split at h
    · cases h
      exact ⟨none, rfl, rfl⟩
    · cases h
      exact ⟨some .v10, rfl, rfl⟩
    · cases h
      exact ⟨some .v13, rfl, rfl⟩
    · cases h
  · rintro ⟨given, rfl, rfl⟩
    match given with
    | none => rfl
    | some .v10 => rfl
    | some .v13 => rfl

/-! ## Complete records -/

/-- All that is in a record with a digest. Version and parameters may be left
out. -/
structure CompleteRecord where
  variant : Variant
  version : Option Version
  parameters : List Parameter
  salt : List UInt8
  output : List UInt8
deriving Repr, DecidableEq

namespace CompleteRecord

variable {c : CompleteRecord}

/-- The fields. -/
def record (c : CompleteRecord) : Record where
  algorithm := c.variant.name.toList
  version := c.version.map Version.code
  parameters := c.parameters.map Parameter.field
  salt := some (Base64.standard.encode c.salt)
  output := some c.output

def text (c : CompleteRecord) : String :=
  c.record.text

/-- What was digested with a password to make the output. -/
def recipe (c : CompleteRecord) : Recipe where
  variant := c.variant
  version := c.version.getD .v13
  costs := (settings c.parameters).1
  salt := c.salt
  associated := (settings c.parameters).2
  size := c.output.length

/-- The digest of a candidate, made as the output was made. -/
def digest (c : CompleteRecord) (candidate : String) : List UInt8 :=
  Argon2.digest c.variant (c.version.getD .v13) (settings c.parameters).1 c.output.length
    (Text.Utf8.encode candidate) c.salt (settings c.parameters).2

/-- The bounds of a complete record. -/
structure Valid (c : CompleteRecord) : Prop where
  parameters : ∀ p ∈ c.parameters, p.Valid
  size : (parametersText (c.parameters.map Parameter.field)).length ≤ 127
  costs : (settings c.parameters).1.Admitted
  salt : leastSalt ≤ c.salt.length ∧ c.salt.length ≤ 48
  output : IsOutput c.output

end CompleteRecord

theorem Version.code_lt (v : Version) : v.code < decimalLimit := by
  cases v with
  | _ => decide

theorem Parameter.isName_name (p : Parameter) : IsName p.name.toList := by
  cases p with
  | _ =>
      simp only [name]
      exact (readName_eq_ok_iff.mp rfl).1

theorem Parameter.Valid.isParameter {p : Parameter} (h : p.Valid) : IsParameter p.field := by
  refine ⟨p.isName_name, ?_⟩
  cases p with
  | memory n | passes n | lanes n => exact isValue_toDigits h
  | keyId bytes | associated bytes => exact isValue_encode (Nat.le_trans h (by decide))

namespace CompleteRecord

variable {c : CompleteRecord}

theorem Valid.wellFormed (h : c.Valid) : c.record.WellFormed where
  algorithm := c.variant.isName_name
  version := by
    intro n hn
    obtain ⟨v, -, rfl⟩ := Option.map_eq_some_iff.mp hn
    exact v.code_lt
  parameters := by
    intro p hp
    obtain ⟨q, hq, rfl⟩ := List.mem_map.mp hp
    exact (h.parameters q hq).isParameter
  size := h.size
  apart := by
    intro _ value hvalue
    obtain ⟨p, -, hp⟩ := List.mem_map.mp (hvalue ▸ List.mem_singleton_self (['v'], value))
    have hname : p.name = "v" := String.toList_injective (congrArg Prod.fst hp)
    cases p with
    | _ => simp [Parameter.name] at hname
  salt := by
    rintro cs hcs
    obtain rfl := Option.some.inj hcs
    have hleast := h.salt.1
    unfold leastSalt at hleast
    refine ⟨isValue_encode h.salt.2, ?_⟩
    rw [Base64.length_encode]
    omega
  output := fun bytes hbytes => Option.some.inj hbytes ▸ h.output
  order := nofun

theorem recipe_record (h : c.Valid) :
    c.record.recipe (Base64.standard.encode c.salt) c.output.length = .ok c.recipe := by
  have hcosts : readCosts c.record.parameters = .ok (settings c.parameters) :=
    readCosts_eq_ok_iff.mpr ⟨c.parameters, ⟨h.parameters, rfl⟩, rfl⟩
  have hcheck := checkCosts_eq_ok_iff.mpr h.costs
  have hvariant : readVariant c.record.algorithm = .ok c.variant := readVariant_eq_ok_iff.mpr rfl
  have hversion : readVersionCode c.record.version = .ok (c.version.getD .v13) :=
    readVersionCode_eq_ok_iff.mpr ⟨c.version, rfl, rfl⟩
  have hsalt := readBase64_encode (Nat.le_trans h.salt.2 (show 48 ≤ 64 by decide))
  refine bind_eq_ok_iff.mpr ⟨_, hcosts, bind_eq_ok_iff.mpr ⟨_, hcheck, ?_⟩⟩
  refine bind_eq_ok_iff.mpr ⟨_, hvariant, bind_eq_ok_iff.mpr ⟨_, hversion, ?_⟩⟩
  exact bind_eq_ok_iff.mpr ⟨_, hsalt, rfl⟩

/-- A record with salt and output that makes a recipe is complete, unless its
salt is too short. -/
theorem exists_of_recipe {r : Record} {cs : List Char} {output : List UInt8} {recipe : Recipe}
    (hr : r.WellFormed) (hsalt : r.salt = some cs) (houtput : r.output = some output)
    (hrecipe : r.recipe cs output.length = .ok recipe) (hleast : leastSalt ≤ recipe.salt.length) :
    ∃ c : CompleteRecord, c.Valid ∧ c.record = r := by
  obtain ⟨⟨costs, associated⟩, hcosts, hrecipe⟩ := bind_eq_ok_iff.mp hrecipe
  obtain ⟨⟨⟩, hcheck, hrecipe⟩ := bind_eq_ok_iff.mp hrecipe
  obtain ⟨variant, hvariant, hrecipe⟩ := bind_eq_ok_iff.mp hrecipe
  obtain ⟨version, hversion, hrecipe⟩ := bind_eq_ok_iff.mp hrecipe
  obtain ⟨salt, hbytes, hrecipe⟩ := bind_eq_ok_iff.mp hrecipe
  cases hrecipe
  obtain ⟨parameters, ⟨hparameters, hfields⟩, hsettings⟩ := readCosts_eq_ok_iff.mp hcosts
  obtain ⟨given, hgiven, rfl⟩ := readVersionCode_eq_ok_iff.mp hversion
  obtain ⟨rfl, -⟩ := readBase64_eq_ok_iff.mp hbytes
  refine ⟨⟨variant, given, parameters, salt, output⟩, ⟨hparameters, ?_, ?_, ⟨hleast, ?_⟩, ?_⟩, ?_⟩
  · exact hfields ▸ hr.size
  · exact hsettings ▸ checkCosts_eq_ok_iff.mp hcheck
  · have hmost := (hr.salt _ hsalt).most
    rw [Base64.length_encode] at hmost
    show salt.length ≤ 48
    omega
  · exact hr.output _ houtput
  · obtain ⟨algorithm, code, fields, saltText, bytes⟩ := r
    simp only at hsalt houtput hfields hgiven
    rw [record, ← readVariant_eq_ok_iff.mp hvariant, ← hfields, ← hgiven, hsalt, houtput]

end CompleteRecord

end MenuHost.Password
