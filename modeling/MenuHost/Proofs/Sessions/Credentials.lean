import MenuHost.Proofs.Sessions.History

/-!
# Who is let in

Which logins a store accepts, told by the list of users it was made of
and by the tokens that are taken, for the store of any run:

- `Admits` is the rule for credentials: the last user of the identity
  counts, and the password must verify against the record of that user.
  The decoy does not occur in it.
- `check_runAll_iff` shows that the check of a store obeys the rule
  after every run, because no operation touches users or decoy.
- `login_of_not_admits` shows that one refusal looks like another. A
  record that was made by `hash` is never malformed, and a decoy that
  matches counts as one that does not.
- `login_runAll` is the whole verdict: who gets a token, which one, and
  what each refusal leaves behind.
-/

namespace MenuHost.Sessions

open MenuHost.Time

/-- The password verifies against the record of the last user of the
identity. -/
def Admits (users : List User) (identity password : String) : Prop :=
  ∃ before user after, users = before ++ user :: after ∧ user.identity = identity
    ∧ (∀ later ∈ after, later.identity ≠ identity)
    ∧ Password.verify user.record password = .ok ()

/-- A new store keeps the record of the last user of an identity. -/
theorem users_new_eq_some_iff {users : List User} {decoy : Option String}
    {identity record : String} :
    (Store.new users decoy).users.get? identity = some record ↔
      ∃ before user after, users = before ++ user :: after ∧ user.identity = identity
        ∧ (∀ later ∈ after, later.identity ≠ identity) ∧ user.record = record := by
  rw [Store.new, Table.get?_ofList_eq_some_iff]
  constructor
  · rintro ⟨before, after, hsplit, hne⟩
    obtain ⟨xs, ys, rfl, rfl, htail⟩ := List.map_eq_append_iff.mp hsplit
    obtain ⟨user, zs, rfl, huser, rfl⟩ := List.map_eq_cons_iff.mp htail
    obtain ⟨rfl, rfl⟩ := Prod.mk.inj huser
    refine ⟨xs, user, zs, rfl, rfl, fun later hmem => ?_, rfl⟩
    exact hne _ (List.mem_map_of_mem hmem)
  · rintro ⟨before, user, after, rfl, rfl, hne, rfl⟩
    refine ⟨before.map fun u => (u.identity, u.record), after.map fun u => (u.identity, u.record),
      by simp, fun e he => ?_⟩
    obtain ⟨later, hmem, rfl⟩ := List.mem_map.mp he
    exact hne later hmem

/-- After any run a password is checked against the users the store was
made of. -/
theorem check_runAll_iff (users : List User) (decoy : Option String) (now : Timestamp)
    (ops : List Operation) (identity password : String) :
    let s := ((Clocked.start users decoy now).runAll ops).2.store
    Store.check (s.users.get? identity) s.decoy password = .ok () ↔
      Admits users identity password := by
  intro s
  have husers : s.users = (Store.new users decoy).users := Clocked.users_runAll _ ops
  rw [Store.check_eq_ok_iff, husers]
  simp only [users_new_eq_some_iff]
  constructor
  · rintro ⟨_, ⟨before, user, after, hsplit, hi, hne, rfl⟩, hverify⟩
    exact ⟨before, user, after, hsplit, hi, hne, hverify⟩
  · rintro ⟨before, user, after, hsplit, hi, hne, hverify⟩
    exact ⟨user.record, ⟨before, user, after, hsplit, hi, hne, rfl⟩, hverify⟩

/-! ## Refusals -/

/-- Users as they are created, and a decoy that is a record too. -/
structure Made (users : List User) (decoy : Option String) : Prop where
  users : ∀ user ∈ users, ∃ password salt, User.create user.identity password salt = .ok user
  decoy : ∀ stored ∈ decoy, Password.IsRecord stored

theorem isRecord_of_create {identity password : String} {salt : Password.Salt} {user : User}
    (h : User.create identity password salt = .ok user) : Password.IsRecord user.record := by
  rw [User.create] at h
  split at h
  · next hhash =>
      rw [← Except.ok.inj h]
      exact ⟨salt, password, hhash⟩
  · cases h

/-- Against such records a password fails in one way only. -/
theorem check_of_isRecord {record decoy : Option String}
    (hrecord : ∀ stored ∈ record, Password.IsRecord stored)
    (hdecoy : ∀ stored ∈ decoy, Password.IsRecord stored) {password : String}
    (hrefused : Store.check record decoy password ≠ .ok ()) :
    Store.check record decoy password = .error .mismatch := by
  cases record with
  | some stored =>
      exact (Password.verify_of_isRecord (hrecord stored rfl) password).resolve_left hrefused
  | none =>
      cases decoy with
      | none => rfl
      | some stored =>
          rcases Password.verify_of_isRecord (hdecoy stored rfl) password with h | h
          · rw [Store.check, h]
          · rw [Store.check, h]

/-- The line that is logged of a login that was refused. -/
def rejection (identity : String) : LogLine :=
  .trace ("login rejected for " ++ identity ++ ": " ++ Password.HashError.mismatch.message)

/-- After any run that left the store available, wrong credentials are refused
alike, whether the identity is known or not. -/
theorem login_of_not_admits {users : List User} {decoy : Option String}
    (hmade : Made users decoy) {now : Timestamp} {ops : List Operation} {c : Clocked}
    (hrun : c = ((Clocked.start users decoy now).runAll ops).2)
    (hav : c.store.available = true) {identity password : String}
    (hno : ¬Admits users identity password) (draws : Nat → String) :
    c.store.login c.now draws identity password =
      (Store.refused .loginFailed [rejection identity], c.store) := by
  have husers : c.store.users = (Store.new users decoy).users := hrun ▸ Clocked.users_runAll _ ops
  have hdecoy : c.store.decoy = decoy := hrun ▸ Clocked.decoy_runAll _ ops
  have hrefused : Store.check (c.store.users.get? identity) c.store.decoy password ≠ .ok () := by
    rw [hrun]
    exact mt (check_runAll_iff users decoy now ops identity password).mp hno
  have hrecord : ∀ stored ∈ c.store.users.get? identity, Password.IsRecord stored := by
    intro stored hstored
    rw [husers] at hstored
    obtain ⟨before, user, after, rfl, -, -, rfl⟩ := users_new_eq_some_iff.mp hstored
    obtain ⟨_, _, hcreate⟩ := hmade.users user (by simp)
    exact isRecord_of_create hcreate
  exact Store.login_of_error hav (check_of_isRecord hrecord (hdecoy ▸ hmade.decoy) hrefused) _ draws

/-! ## Verdicts -/

/-- **The verdict on a login.** On the store of any run that was not made
unavailable, a login gets a token exactly when the credentials are
admitted and one of the first five draws is free. It then gets the first
free one, recorded for thirty days; without credentials nothing is
drawn, and with five taken draws nothing is recorded. -/
theorem login_runAll (users : List User) (decoy : Option String) (now : Timestamp)
    {ops : List Operation} (hops : Operation.poison ∉ ops) (draws : Nat → String)
    (identity password : String) :
    let c := ((Clocked.start users decoy now).runAll ops).2
    let login := c.store.login c.now draws identity password
    ((∃ token expires, login.1.result = .ok (token, expires)) ↔
        Admits users identity password ∧ ∃ k < 5, ¬c.store.Taken (draws k))
      ∧ (∀ k < 5, Admits users identity password → ¬c.store.Taken (draws k) →
        (∀ j < k, c.store.Taken (draws j)) →
        login.1.result = .ok (draws k, expiryOf c.now) ∧ login.1.drawn = k + 1
          ∧ ∀ token, login.2.sessions.get? token =
            if token = draws k then some ⟨identity, expiryOf c.now⟩
            else c.store.sessions.get? token)
      ∧ (¬Admits users identity password →
        login.1.result = .error .loginFailed ∧ login.1.drawn = 0 ∧ login.2 = c.store)
      ∧ (Admits users identity password → (∀ k < 5, c.store.Taken (draws k)) →
        login.1.result = .error .tokenExhausted ∧ login.1.drawn = 5 ∧ login.2 = c.store) := by
  intro c login
  have hadmits := check_runAll_iff users decoy now ops identity password
  have hav : c.store.available = true :=
    (Clocked.available_runAll _ ops).mpr ⟨rfl, hops⟩
  have hfirst : Admits users identity password → ∀ k < 5, ¬c.store.Taken (draws k) →
      (∀ j < k, c.store.Taken (draws j)) → login = _ := fun hyes k hk hfree htaken =>
    Store.login_of_free hav (hadmits.mpr hyes) hk hfree htaken c.now
  have hrefused : ¬Admits users identity password → login.1.result = .error .loginFailed
      ∧ login.1.drawn = 0 ∧ login.2 = c.store := fun hno =>
    Store.login_of_refused hav (fun hok => hno (hadmits.mp hok)) c.now draws
  have hfull : Admits users identity password → (∀ k < 5, c.store.Taken (draws k)) →
      login = _ := fun hyes htaken =>
    Store.login_of_taken hav (hadmits.mpr hyes) htaken c.now
  refine ⟨⟨?_, ?_⟩, ?_, hrefused, ?_⟩
  · rintro ⟨token, expires, hok⟩
    by_cases hyes : Admits users identity password
    · refine ⟨hyes, Classical.byContradiction fun hnone => ?_⟩
      have htaken : ∀ k < 5, c.store.Taken (draws k) := fun k hk =>
        Classical.byContradiction fun hfree => hnone ⟨k, hk, hfree⟩
      rw [hfull hyes htaken] at hok
      cases hok
    · rw [(hrefused hyes).1] at hok
      cases hok
  · rintro ⟨hyes, k, hk, hfree⟩
    cases hdraw : c.store.freeDraw? draws with
    | none => exact absurd (Store.freeDraw?_eq_none_iff.mp hdraw k hk) hfree
    | some first =>
        obtain ⟨hk', hfree', htaken⟩ := Store.freeDraw?_eq_some_iff.mp hdraw
        exact ⟨_, _, by rw [hfirst hyes first hk' hfree' htaken]⟩
  · intro k hk hyes hfree htaken
    have hlogin := hfirst hyes k hk hfree htaken
    rw [plusDays_lifetimeDays] at hlogin
    simp [hlogin, Table.get?_insert]
  · intro hyes htaken
    simp [hfull hyes htaken, maxDraws]

/-- Alice gets a token with her password, and Bob, who is no user, gets none. -/
theorem login_runAll_alice :
    ∃ record,
      let c := ((Clocked.start [⟨"alice", record⟩] none Timestamp.epoch).runAll [.advance 1 0]).2
      Operation.poison ∉ [Operation.advance 1 0]
        ∧ (c.store.login c.now (fun _ => "abc") "alice" "wonderland").1.result
          = .ok ("abc", expiryOf c.now)
        ∧ (c.store.login c.now (fun _ => "abc") "bob" "wonderland").1.result
          = .error .loginFailed := by
  obtain ⟨record, -, hverify⟩ := Password.exists_record (Vector.replicate 16 0)
    (show "wonderland".utf8ByteSize < Password.passwordLimit by decide)
  have hops : Operation.poison ∉ [Operation.advance 1 0] := by simp
  have halice : Admits [⟨"alice", record⟩] "alice" "wonderland" :=
    ⟨[], ⟨"alice", record⟩, [], rfl, rfl, by simp, hverify⟩
  have hbob : ¬Admits [⟨"alice", record⟩] "bob" "wonderland" := by
    rintro ⟨before, user, after, hsplit, hname, -⟩
    have hmem : user ∈ [⟨"alice", record⟩] := hsplit ▸ by simp
    obtain rfl := List.mem_singleton.mp hmem
    exact absurd hname (show "alice" ≠ "bob" by decide)
  have hverdict := login_runAll [⟨"alice", record⟩] none Timestamp.epoch hops fun _ => "abc"
  refine ⟨record, hops, ?_, ((hverdict "bob" "wonderland").2.2.1 hbob).1⟩
  have hfree := Store.not_taken_new [⟨"alice", record⟩] none "abc"
  exact ((hverdict "alice" "wonderland").2.1 0 (by decide) halice hfree (by simp)).1

end MenuHost.Sessions
