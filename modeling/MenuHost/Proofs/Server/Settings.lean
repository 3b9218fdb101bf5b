import MenuHost.Proofs.Sessions.Credentials
import MenuHost.Server.Config

/-!
# From the environment to a login

What the variables of an environment decide. They are looked at in a fixed
order, and the first that is wrong gives the error: the address, the kind
of run, and last the password of the development user, which is wrong only
if it is too long to be hashed (`Verdict`).

The settings name at most one user, and a store that is made of them lets
in nobody else. Here the record of the password is followed from its
writing to the check in the store, with `Password.exists_record` for the
password itself and `check_runAll_iff` for all others.

A variable counts by its text alone (`Sets`), so one whose bytes are no
text is the same as one that is not there.
-/

namespace MenuHost.Server

open MenuHost.Sessions MenuHost.Time

/-! ## Variables -/

/-- The variable holds just the bytes of the text. -/
def Environment.Sets (env : Environment) (name text : String) : Prop :=
  env name = some (Text.Utf8.encode text)

/-- The address that is set is none. -/
def BadAddress (env : Environment) (text : String) : Prop :=
  env.Sets "SITE_ADDR" text ∧ SocketAddress.parse? text = none

/-- The kind of run that is set is none. -/
def BadKind (env : Environment) (text : String) : Prop :=
  env.Sets "APP_ENV" text ∧ text ≠ "DEV" ∧ text ≠ "PROD"

/-- The identity and a password that verifies against the record of the
password that is set. -/
def Expects (env : Environment) (salt : Password.Salt) (identity password : String) : Prop :=
  env.Sets "DEV_IDENTITY" identity ∧ ∃ secret record, env.Sets "DEV_PASSWORD" secret
    ∧ Password.hash salt secret = .ok record ∧ Password.verify record password = .ok ()

theorem text?_eq_some_iff {env : Environment} {name text : String} :
    env.text? name = some text ↔ env.Sets name text := by
  rw [Environment.text?, Environment.Sets, Option.bind_eq_some_iff]
  constructor
  · rintro ⟨bytes, hbytes, htext⟩
    rw [hbytes, Text.Utf8.encode_of_decode? htext]
  · intro h
    exact ⟨_, h, Text.Utf8.decode?_encode text⟩

theorem text?_eq_none_iff {env : Environment} {name : String} :
    env.text? name = none ↔ ∀ text, ¬env.Sets name text := by
  simp only [← text?_eq_some_iff, Option.eq_none_iff_forall_ne_some, ne_eq]

/-- Environments in which the same texts are set cannot be told apart. -/
theorem text?_congr {env env' : Environment}
    (h : ∀ name text, env.Sets name text ↔ env'.Sets name text) : env.text? = env'.text? := by
  funext name
  apply Option.ext
  intro text
  rw [text?_eq_some_iff, text?_eq_some_iff, h]

/-! ## One variable after the other -/

theorem eq_of_sets {env : Environment} {name text other : String} (h : env.Sets name text)
    (h' : env.Sets name other) : text = other :=
  Option.some.inj ((text?_eq_some_iff.mpr h).symm.trans (text?_eq_some_iff.mpr h'))

theorem parse?_defaultAddress : ∃ address, SocketAddress.parse? defaultAddress = some address :=
  Option.isSome_iff_exists.mp (by decide)

/-- Unless the address that is set is none, there is one. -/
theorem exists_address {env : Environment} (h : ∀ text, ¬BadAddress env text) :
    ∃ address, SocketAddress.parse? ((env.text? "SITE_ADDR").getD defaultAddress) = some address
      ∧ ∀ text, env.Sets "SITE_ADDR" text → SocketAddress.parse? text = some address := by
  cases hset : env.text? "SITE_ADDR" with
  | none =>
      obtain ⟨address, haddress⟩ := parse?_defaultAddress
      exact ⟨address, haddress, fun text htext => absurd htext (text?_eq_none_iff.mp hset text)⟩
  | some text =>
      have htext := text?_eq_some_iff.mp hset
      cases hparse : SocketAddress.parse? text with
      | none => exact absurd ⟨htext, hparse⟩ (h text)
      | some address =>
          refine ⟨address, hparse, fun other hother => ?_⟩
          rw [← eq_of_sets htext hother, hparse]

theorem ofText?_of_badKind {env : Environment} {text : String} (h : BadKind env text) :
    Env.ofText? (env.text? "APP_ENV") = .error (.invalidEnv text) := by
  obtain ⟨hset, hdev, hprod⟩ := h
  rw [text?_eq_some_iff.mpr hset, Env.ofText?]
  · exact fun heq => hdev heq
  · exact fun heq => hprod heq

theorem exists_kind {env : Environment} (h : ∀ text, ¬BadKind env text) :
    ∃ kind, Env.ofText? (env.text? "APP_ENV") = .ok kind
      ∧ (kind = .prod ↔ env.Sets "APP_ENV" "PROD") := by
  cases hset : env.text? "APP_ENV" with
  | none =>
      exact ⟨.dev, rfl, iff_of_false nofun (text?_eq_none_iff.mp hset "PROD")⟩
  | some text =>
      have htext := text?_eq_some_iff.mp hset
      by_cases hdev : text = "DEV"
      · subst hdev
        have hother : ¬env.Sets "APP_ENV" "PROD" := by
          intro hprod
          exact absurd (eq_of_sets htext hprod) (by decide)
        exact ⟨.dev, rfl, iff_of_false nofun hother⟩
      · by_cases hprod : text = "PROD"
        · subst hprod
          exact ⟨.prod, rfl, iff_of_true rfl htext⟩
        · exact absurd ⟨htext, hdev, hprod⟩ (h text)

theorem admits_toList_iff {user : Option User} {identity password : String} :
    Admits user.toList identity password ↔
      ∃ u, user = some u ∧ u.identity = identity ∧ Password.verify u.record password = .ok () := by
  constructor
  · rintro ⟨before, u, after, hsplit, hidentity, -, hverify⟩
    have hmem : u ∈ user.toList := hsplit ▸ by simp
    exact ⟨u, Option.mem_toList.mp hmem, hidentity, hverify⟩
  · rintro ⟨u, rfl, hidentity, hverify⟩
    exact ⟨[], u, [], rfl, hidentity, by simp, hverify⟩

theorem hash_of_long {salt : Password.Salt} {secret : String}
    (h : Password.passwordLimit ≤ secret.utf8ByteSize) :
    Password.hash salt secret = .error (.hash .password) := by
  rw [Password.hash, Password.Recipe.digest, if_pos h]

/-- There is a development user with the expected credentials, or none. Only a
password that is too long is an error. -/
theorem developer_cases (env : Environment) (salt : Password.Salt) :
    let developer := developer? (env.text? "DEV_IDENTITY") (env.text? "DEV_PASSWORD") salt
    (∃ user, developer = .ok user ∧ ∀ identity password,
        Admits user.toList identity password ↔ Expects env salt identity password)
      ∨ ∃ e secret, developer = .error (.passwordHash e) ∧ env.Sets "DEV_PASSWORD" secret
        ∧ Password.passwordLimit ≤ secret.utf8ByteSize := by
  intro developer
  cases hidentity : env.text? "DEV_IDENTITY" with
  | none =>
      have hunset := text?_eq_none_iff.mp hidentity
      refine Or.inl ⟨none, by simp only [developer, hidentity, developer?], ?_⟩
      intro identity password
      rw [admits_toList_iff]
      exact iff_of_false nofun fun hexpects => hunset identity hexpects.1
  | some name =>
      have hname := text?_eq_some_iff.mp hidentity
      cases hpassword : env.text? "DEV_PASSWORD" with
      | none =>
          have hunset := text?_eq_none_iff.mp hpassword
          refine Or.inl ⟨none, by simp only [developer, hidentity, hpassword, developer?], ?_⟩
          intro identity password
          rw [admits_toList_iff]
          refine iff_of_false nofun ?_
          rintro ⟨-, secret, record, hsecret, -⟩
          exact hunset secret hsecret
      | some secret =>
          have hsecret := text?_eq_some_iff.mp hpassword
          rcases Nat.lt_or_ge secret.utf8ByteSize Password.passwordLimit with hshort | hlong
          · obtain ⟨record, hhash, -⟩ := Password.exists_record salt hshort
            refine Or.inl ⟨some ⟨name, record⟩, ?_, ?_⟩
            · simp only [developer, hidentity, hpassword, developer?, User.create, hhash]
            · intro identity password
              rw [admits_toList_iff]
              constructor
              · rintro ⟨u, hu, rfl, hverify⟩
                obtain rfl := Option.some.inj hu
                exact ⟨hname, secret, record, hsecret, hhash, hverify⟩
              · rintro ⟨hexpected, other, stored, hother, hstored, hverify⟩
                -- both variables are set once only, so this is the record of the user
                obtain rfl := eq_of_sets hname hexpected
                obtain rfl := eq_of_sets hsecret hother
                obtain rfl := Except.ok.inj (hhash.symm.trans hstored)
                exact ⟨_, rfl, rfl, hverify⟩
          · refine Or.inr ⟨.hash .password, secret, ?_, hsecret, hlong⟩
            simp only [developer, hidentity, hpassword, developer?, User.create, hash_of_long hlong]

/-! ## All variables -/

section

variable {env : Environment} {salt : Password.Salt} {text : String}

theorem ofEnvironment_of_badAddress (h : BadAddress env text) :
    Config.ofEnvironment env salt = .error (.invalidAddr text) := by
  obtain ⟨hset, hparse⟩ := h
  simp only [Config.ofEnvironment, text?_eq_some_iff.mpr hset, Option.getD_some, hparse]
  rfl

theorem ofEnvironment_of_badKind (haddress : ∀ text, ¬BadAddress env text)
    (h : BadKind env text) : Config.ofEnvironment env salt = .error (.invalidEnv text) := by
  obtain ⟨address, hparse, -⟩ := exists_address haddress
  simp only [Config.ofEnvironment, hparse, ofText?_of_badKind h]
  rfl

/-- What the settings say of the variables, the user apart. -/
structure Follows (config : Config) (env : Environment) : Prop where
  address : ∀ text, env.Sets "SITE_ADDR" text → SocketAddress.parse? text = some config.address
  kind : config.env = .prod ↔ env.Sets "APP_ENV" "PROD"
  siteRoot : ∀ root, env.Sets "SITE_ROOT" root → config.siteRoot = root

theorem ofEnvironment_of_good (haddress : ∀ text, ¬BadAddress env text)
    (hkind : ∀ text, ¬BadKind env text) (salt : Password.Salt) :
    ∃ build : Option User → Config, (∀ user, Follows (build user) env ∧ (build user).devUser = user)
      ∧ Config.ofEnvironment env salt
        = (developer? (env.text? "DEV_IDENTITY") (env.text? "DEV_PASSWORD") salt).map build := by
  obtain ⟨address, hparse, haddress⟩ := exists_address haddress
  obtain ⟨kind, hkind, hprod⟩ := exists_kind hkind
  refine ⟨fun user => ⟨address, (env.text? "SITE_ROOT").getD defaultSiteRoot, kind, user⟩, ?_, ?_⟩
  · intro user
    refine ⟨⟨haddress, hprod, ?_⟩, rfl⟩
    intro root hroot
    rw [text?_eq_some_iff.mpr hroot]
    rfl
  · simp only [Config.ofEnvironment, hparse, hkind]
    cases developer? (env.text? "DEV_IDENTITY") (env.text? "DEV_PASSWORD") salt <;> rfl

end

/-- What an environment comes to, in the order in which it is decided. -/
inductive Verdict (env : Environment) (salt : Password.Salt) : Except ConfigError Config → Prop
  | badAddress {text : String} (h : BadAddress env text) :
      Verdict env salt (.error (.invalidAddr text))
  | badKind {text : String} (haddress : ∀ address, ¬BadAddress env address)
      (h : BadKind env text) : Verdict env salt (.error (.invalidEnv text))
  | longPassword {e : Password.HashError} {secret : String}
      (haddress : ∀ text, ¬BadAddress env text) (hkind : ∀ text, ¬BadKind env text)
      (hset : env.Sets "DEV_PASSWORD" secret)
      (hlong : Password.passwordLimit ≤ secret.utf8ByteSize) :
      Verdict env salt (.error (.passwordHash e))
  | settled {config : Config} (haddress : ∀ text, ¬BadAddress env text)
      (hkind : ∀ text, ¬BadKind env text) (hfollows : Follows config env)
      (hadmits : ∀ identity password,
        Admits config.devUser.toList identity password ↔ Expects env salt identity password) :
      Verdict env salt (.ok config)

theorem verdict (env : Environment) (salt : Password.Salt) :
    Verdict env salt (Config.ofEnvironment env salt) := by
  by_cases haddress : ∃ text, BadAddress env text
  · obtain ⟨text, hbad⟩ := haddress
    rw [ofEnvironment_of_badAddress hbad]
    exact .badAddress hbad
  · rw [not_exists] at haddress
    by_cases hkind : ∃ text, BadKind env text
    · obtain ⟨text, hbad⟩ := hkind
      rw [ofEnvironment_of_badKind haddress hbad]
      exact .badKind haddress hbad
    · rw [not_exists] at hkind
      obtain ⟨build, hbuild, hsettings⟩ := ofEnvironment_of_good haddress hkind salt
      rw [hsettings]
      rcases developer_cases env salt with ⟨user, hok, hadmits⟩ | ⟨e, secret, herror, hset, hlong⟩
      · obtain ⟨hfollows, huser⟩ := hbuild user
        rw [hok]
        exact .settled haddress hkind hfollows (huser.symm ▸ hadmits)
      · rw [herror]
        exact .longPassword haddress hkind hset hlong

/-! ## Logins -/

def Succeeds (c : Clocked) (draws : Nat → String) (identity password : String) : Prop :=
  ∃ token expires, (c.store.login c.now draws identity password).1.result = .ok (token, expires)

/-- On the store of a run logins succeed by the users that the store was made of. -/
theorem succeeds_runAll_iff {users : List User} {decoy : Option String} {now : Timestamp}
    {ops : List Operation} {draws : Nat → String} {identity password : String} :
    Succeeds ((Clocked.start users decoy now).runAll ops).2 draws identity password ↔
      ((Clocked.start users decoy now).runAll ops).2.store.available = true
        ∧ Admits users identity password
        ∧ ∃ k < 5, ¬((Clocked.start users decoy now).runAll ops).2.store.Taken (draws k) := by
  have hcheck := check_runAll_iff users decoy now ops identity password
  rw [Succeeds, Store.login_eq_ok_iff]
  exact and_congr_right fun _ => and_congr_left fun _ => hcheck

/-- **From the environment to a login.** An address that is none is reported
first, and then a kind of run that is none, whatever else is set. Otherwise
there are settings, and after any run of the store that is made of them a login
with a free draw succeeds exactly with the expected credentials, to which the
password that is set belongs; without identity or password none ever succeeds.
The settings depend on nothing but the texts that are set. -/
theorem settings_from_environment (env : Environment) (salt : Password.Salt) :
    let settings := Config.ofEnvironment env salt
    (∀ text, settings = .error (.invalidAddr text) ↔ BadAddress env text)
      ∧ (∀ text, settings = .error (.invalidEnv text) ↔
          (∀ address, ¬BadAddress env address) ∧ BadKind env text)
      ∧ ((∀ text, ¬BadAddress env text) → (∀ text, ¬BadKind env text) →
          (∀ secret, env.Sets "DEV_PASSWORD" secret →
            secret.utf8ByteSize < Password.passwordLimit) →
          ∃ config, settings = .ok config ∧ Follows config env ∧ ∀ decoy now ops,
            let c := ((Clocked.start config.devUser.toList decoy now).runAll ops).2
            (∀ draws identity password, c.store.available = true →
              (∃ k < 5, ¬c.store.Taken (draws k)) →
              (Succeeds c draws identity password ↔ Expects env salt identity password))
            ∧ ((∀ text, ¬env.Sets "DEV_IDENTITY" text) ∨ (∀ text, ¬env.Sets "DEV_PASSWORD" text) →
              ∀ draws identity password, ¬Succeeds c draws identity password))
      ∧ (∀ identity secret, env.Sets "DEV_IDENTITY" identity → env.Sets "DEV_PASSWORD" secret →
          secret.utf8ByteSize < Password.passwordLimit → Expects env salt identity secret)
      ∧ ∀ env' : Environment, (∀ name text, env'.Sets name text ↔ env.Sets name text) →
          Config.ofEnvironment env' salt = settings := by
  intro settings
  have hverdict : Verdict env salt settings := verdict env salt
  have htexts : ∀ env' : Environment, (∀ name text, env'.Sets name text ↔ env.Sets name text) →
      Config.ofEnvironment env' salt = settings := by
    intro env' hsame
    simp only [settings, Config.ofEnvironment, text?_congr hsame]
  refine ⟨?_, ?_, ?_, ?_, htexts⟩
  · intro text
    refine ⟨fun herror => ?_, ofEnvironment_of_badAddress⟩
    rw [herror] at hverdict
    cases hverdict with
    | badAddress hbad => exact hbad
  · intro text
    refine ⟨fun herror => ?_, fun hbad => ofEnvironment_of_badKind hbad.1 hbad.2⟩
    rw [herror] at hverdict
    cases hverdict with
    | badKind haddress hbad => exact ⟨haddress, hbad⟩
  · intro haddress hkind hshort
    cases hsettings : settings with
    | error e =>
        rw [hsettings] at hverdict
        cases hverdict with
        | badAddress hbad => exact absurd hbad (haddress _)
        | badKind _ hbad => exact absurd hbad (hkind _)
        | longPassword _ _ hset hlong => exact absurd (hshort _ hset) (Nat.not_lt.mpr hlong)
    | ok config =>
        rw [hsettings] at hverdict
        cases hverdict with
        | settled _ _ hfollows hadmits =>
            refine ⟨config, rfl, hfollows, fun decoy now ops => ⟨?_, ?_⟩⟩
            · intro draws identity password hav hfree
              rw [succeeds_runAll_iff, ← hadmits]
              exact ⟨fun h => h.2.1, fun h => ⟨hav, h, hfree⟩⟩
            · intro hunset draws identity password hsucceeds
              obtain ⟨-, hyes, -⟩ := succeeds_runAll_iff.mp hsucceeds
              obtain ⟨hidentity, secret, -, hsecret, -⟩ := (hadmits identity password).mp hyes
              rcases hunset with hnone | hnone
              · exact hnone identity hidentity
              · exact hnone secret hsecret
  · intro identity secret hidentity hsecret hshort
    obtain ⟨record, hhash, hverify⟩ := Password.exists_record salt hshort
    exact ⟨hidentity, secret, record, hsecret, hhash, hverify⟩

/-- Alice is the development user of an environment whose kind of run is no
text. She logs in, and Bob does not; with an address that is none there would
be no settings. -/
theorem settings_from_environment_alice :
    let env : Environment := fun name =>
      if name = "SITE_ROOT" then some (Text.Utf8.encode "dist/")
      else if name = "APP_ENV" then some [0xff]
      else if name = "DEV_IDENTITY" then some (Text.Utf8.encode "alice")
      else if name = "DEV_PASSWORD" then some (Text.Utf8.encode "wonderland")
      else none
    let broken : Environment := fun name =>
      if name = "SITE_ADDR" then some (Text.Utf8.encode "nowhere") else env name
    let salt : Password.Salt := Vector.replicate 16 0
    Config.ofEnvironment broken salt = .error (.invalidAddr "nowhere")
      ∧ ∃ config, Config.ofEnvironment env salt = .ok config ∧ config.siteRoot = "dist/"
        ∧ let c := ((Clocked.start config.devUser.toList none .epoch).runAll []).2
          Succeeds c (fun _ => "abc") "alice" "wonderland"
            ∧ ¬Succeeds c (fun _ => "abc") "bob" "wonderland" := by
  intro env broken salt
  have haddress : ∀ text, ¬BadAddress env text := fun text hbad =>
    text?_eq_none_iff.mp (show env.text? "SITE_ADDR" = none from rfl) text hbad.1
  have hkind : ∀ text, ¬BadKind env text := fun text hbad =>
    text?_eq_none_iff.mp (show env.text? "APP_ENV" = none by decide) text hbad.1
  have hshort : ∀ secret, env.Sets "DEV_PASSWORD" secret →
      secret.utf8ByteSize < Password.passwordLimit := by
    intro secret hsecret
    have hset : env.Sets "DEV_PASSWORD" "wonderland" := rfl
    obtain rfl := eq_of_sets hset hsecret
    decide
  obtain ⟨-, -, hgood, hown, -⟩ := settings_from_environment env salt
  obtain ⟨config, hok, hfollows, hlogins⟩ := hgood haddress hkind hshort
  refine ⟨?_, config, hok, hfollows.siteRoot "dist/" rfl, ?_⟩
  · exact ((settings_from_environment broken salt).1 "nowhere").mpr ⟨rfl, by decide⟩
  · intro c
    obtain ⟨hexact, -⟩ := hlogins none .epoch []
    have hfree : ∃ k < 5, ¬c.store.Taken "abc" := ⟨0, by decide, Store.not_taken_new _ _ _⟩
    constructor
    · exact (hexact _ "alice" "wonderland" rfl hfree).mpr (hown _ _ rfl rfl (by decide))
    · intro hbob
      have hexpects := (hexact _ "bob" "wonderland" rfl hfree).mp hbob
      have hset : env.Sets "DEV_IDENTITY" "alice" := rfl
      exact absurd (eq_of_sets hset hexpects.1) (by decide)

end MenuHost.Server
