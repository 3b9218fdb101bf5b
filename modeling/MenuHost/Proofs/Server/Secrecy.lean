import MenuHost.Proofs.Password.Verdict
import MenuHost.Proofs.Server.Settings
import MenuHost.Server.Startup

/-!
# The password stays hidden

Of the development user's password the settings keep a record and nothing
else, and no text of the settings shows the record. The first half is about
reading: environments that differ in the password only lead to the same
error, or to settings that differ in the record only
(`ofEnvironment_withRecord`). The second is about showing: the settings with
another record (`Config.withRecord`) have the same texts, on one line and on
several, whatever stands in the record.
-/

namespace MenuHost.Server

open MenuHost.Sessions

/-! ## Showing -/

def Config.withRecord (c : Config) (record : String) : Config :=
  { c with devUser := c.devUser.map fun user => { user with record } }

theorem Config.text_withRecord (c : Config) (record : String) :
    (c.withRecord record).text = c.text := by
  obtain ⟨address, siteRoot, kind, user⟩ := c
  cases user <;> rfl

theorem Config.lines_withRecord (c : Config) (record : String) :
    (c.withRecord record).lines = c.lines := by
  obtain ⟨address, siteRoot, kind, user⟩ := c
  cases user <;> rfl

theorem Config.startLog_withRecord (c : Config) (record : String) :
    (c.withRecord record).startLog = c.startLog := by
  have hnobody : (c.withRecord record).devUser.isNone = c.devUser.isNone := Option.isNone_map
  rw [startLog, startLog, startLines, startLines, lines_withRecord, hnobody]
  rfl

/-! ## Reading -/

section

variable {env env' : Environment} {secret secret' : String}

theorem text?_of_eq {name : String} (h : env' name = env name) :
    env'.text? name = env.text? name := by
  rw [Environment.text?, Environment.text?, h]

/-- Two passwords that can be hashed lead to users with the same identity. -/
theorem developer?_withRecord (identity : Option String)
    (hshort : secret.utf8ByteSize < Password.passwordLimit)
    (hshort' : secret'.utf8ByteSize < Password.passwordLimit) (salt salt' : Password.Salt) :
    ∃ record, developer? identity (some secret') salt'
      = (developer? identity (some secret) salt).map (·.map fun user => { user with record }) := by
  obtain ⟨first, hfirst, -⟩ := Password.exists_record salt hshort
  obtain ⟨record, hrecord, -⟩ := Password.exists_record salt' hshort'
  refine ⟨record, ?_⟩
  cases identity with
  | none => rfl
  | some name => simp only [developer?, User.create, hfirst, hrecord, Except.map, Option.map_some]

theorem ofEnvironment_withRecord (hsame : ∀ name, name ≠ "DEV_PASSWORD" → env' name = env name)
    (hset : env.Sets "DEV_PASSWORD" secret) (hset' : env'.Sets "DEV_PASSWORD" secret')
    (hshort : secret.utf8ByteSize < Password.passwordLimit)
    (hshort' : secret'.utf8ByteSize < Password.passwordLimit) (salt salt' : Password.Salt) :
    ∃ record, Config.ofEnvironment env' salt'
      = (Config.ofEnvironment env salt).map (·.withRecord record) := by
  obtain ⟨record, hdeveloper⟩ :=
    developer?_withRecord (env.text? "DEV_IDENTITY") hshort hshort' salt salt'
  refine ⟨record, ?_⟩
  simp only [Config.ofEnvironment, text?_of_eq (hsame "SITE_ADDR" (by decide)),
    text?_of_eq (hsame "APP_ENV" (by decide)), text?_of_eq (hsame "DEV_IDENTITY" (by decide)),
    text?_of_eq (hsame "SITE_ROOT" (by decide)), text?_eq_some_iff.mpr hset,
    text?_eq_some_iff.mpr hset', hdeveloper]
  -- the user is the last that can fail, and all before is read off the same texts
  cases SocketAddress.parse? ((env.text? "SITE_ADDR").getD defaultAddress) with
  | none => rfl
  | some address =>
      cases Env.ofText? (env.text? "APP_ENV") with
      | error e => rfl
      | ok kind => cases developer? (env.text? "DEV_IDENTITY") (some secret) salt <;> rfl

end

/-- **The password stays hidden.** Environments in which different passwords are
set and everything else is the same, with whatever salts, lead to the same error,
or to settings that differ in the record of the password and in nothing else. The
text of the settings is the same, and so is all that is logged of them at the
start. -/
theorem password_stays_hidden {env env' : Environment} {secret secret' : String}
    (hsame : ∀ name, name ≠ "DEV_PASSWORD" → env' name = env name)
    (hset : env.Sets "DEV_PASSWORD" secret) (hset' : env'.Sets "DEV_PASSWORD" secret')
    (hshort : secret.utf8ByteSize < Password.passwordLimit)
    (hshort' : secret'.utf8ByteSize < Password.passwordLimit) (salt salt' : Password.Salt) :
    (∃ e, Config.ofEnvironment env salt = .error e ∧ Config.ofEnvironment env' salt' = .error e)
      ∨ ∃ config config', Config.ofEnvironment env salt = .ok config
        ∧ Config.ofEnvironment env' salt' = .ok config'
        ∧ (∃ record, config' = config.withRecord record)
        ∧ config'.text = config.text
        ∧ config'.startLog = config.startLog := by
  obtain ⟨record, hrecord⟩ := ofEnvironment_withRecord hsame hset hset' hshort hshort' salt salt'
  cases hsettings : Config.ofEnvironment env salt with
  | error e =>
      rw [hsettings] at hrecord
      exact Or.inl ⟨e, rfl, hrecord⟩
  | ok config =>
      rw [hsettings] at hrecord
      exact Or.inr ⟨config, config.withRecord record, rfl, hrecord, ⟨record, rfl⟩,
        config.text_withRecord record, config.startLog_withRecord record⟩

/-- Alice with two passwords and two salts: her records differ, and nothing of it
shows. -/
theorem password_stays_hidden_alice :
    let env (secret : String) : Environment := fun name =>
      if name = "SITE_ROOT" then some (Text.Utf8.encode "the \"site\"")
      else if name = "DEV_IDENTITY" then some (Text.Utf8.encode "alice")
      else if name = "DEV_PASSWORD" then some (Text.Utf8.encode secret)
      else none
    let salt (n : Nat) : Password.Salt := Vector.replicate 16 n.toUInt8
    (∀ name, name ≠ "DEV_PASSWORD" → env "looking-glass" name = env "wonderland" name)
      ∧ ∃ config config', Config.ofEnvironment (env "wonderland") (salt 0) = .ok config
        ∧ Config.ofEnvironment (env "looking-glass") (salt 1) = .ok config'
        ∧ config'.devUser ≠ config.devUser
        ∧ config'.text = config.text
        ∧ config'.startLog = config.startLog := by
  intro env salt
  have hsame : ∀ name, name ≠ "DEV_PASSWORD" →
      env "looking-glass" name = env "wonderland" name := by
    intro name hname
    simp only [env, if_neg hname]
  have hsettled : ∀ secret n, secret.utf8ByteSize < Password.passwordLimit →
      ∃ config, Config.ofEnvironment (env secret) (salt n) = .ok config
        ∧ config.devUser = some ⟨"alice", Password.Record.write "argon2id" .v13
          Password.defaultCosts (salt n).toList (Password.newDigest (salt n) secret)⟩ := by
    intro secret n hshort
    have haddress : ∀ text, ¬BadAddress (env secret) text := fun text hbad =>
      text?_eq_none_iff.mp (show (env secret).text? "SITE_ADDR" = none from rfl) text hbad.1
    have hkind : ∀ text, ¬BadKind (env secret) text := fun text hbad =>
      text?_eq_none_iff.mp (show (env secret).text? "APP_ENV" = none from rfl) text hbad.1
    have hidentity : (env secret).text? "DEV_IDENTITY" = some "alice" :=
      text?_eq_some_iff.mpr rfl
    have hsecret : (env secret).text? "DEV_PASSWORD" = some secret := text?_eq_some_iff.mpr rfl
    obtain ⟨build, hbuild, hsettings⟩ := ofEnvironment_of_good haddress hkind (salt n)
    rw [hidentity, hsecret, developer?, User.create, Password.hash_eq (salt n) hshort] at hsettings
    exact ⟨_, hsettings, (hbuild _).2⟩
  have hshort : "wonderland".utf8ByteSize < Password.passwordLimit := by decide
  have hshort' : "looking-glass".utf8ByteSize < Password.passwordLimit := by decide
  obtain ⟨first, hfirst, huser⟩ := hsettled "wonderland" 0 hshort
  obtain ⟨second, hsecond, huser'⟩ := hsettled "looking-glass" 1 hshort'
  refine ⟨hsame, first, second, hfirst, hsecond, fun heq => ?_, ?_⟩
  · rw [huser, huser'] at heq
    have hsalts : salt 1 = salt 0 := Password.salt_eq_of_write
      (Password.length_newDigest (salt 0) hshort) (Password.length_newDigest (salt 1) hshort')
      (congrArg User.record (Option.some.inj heq))
    exact absurd (congrArg (·[0]) hsalts) (by decide)
  · rcases password_stays_hidden hsame rfl rfl hshort hshort' (salt 0) (salt 1) with
      ⟨e, herror, -⟩ | ⟨config, config', hok, hok', -, htexts⟩
    · cases hfirst.symm.trans herror
    · cases hfirst.symm.trans hok
      cases hsecond.symm.trans hok'
      exact htexts

end MenuHost.Server
