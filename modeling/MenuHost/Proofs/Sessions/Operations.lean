import MenuHost.Sessions.Run

/-!
# What the operations of the store do

One statement for each operation, guards included, so that no later
proof opens the operations again:

- **logging in** (`Store.login_cases`): a login is turned away by an
  unavailable store, by the check of the password, or by five draws
  that are all taken; otherwise it records its first free draw. The
  check succeeds only against a user's own record (`check_eq_ok_iff`),
  never against the decoy.
- **logging out and looking up**: one equation for an available store,
  and `identity_eq_ok_iff` for what a lookup finds.
- **frames**: no operation changes the users or the decoy
  (`users_runAll`, `decoy_runAll`), and only `poison` makes a store
  unavailable (`available_runAll`).
-/

namespace MenuHost.Sessions

open MenuHost.Time

namespace Store

/-! ## Logging in -/

/-- A session is recorded for the token, running or expired. -/
def Taken (s : Store) (token : String) : Prop :=
  s.sessions.get? token ≠ none

theorem not_taken_new (users : List User) (decoy : Option String) (token : String) :
    ¬(new users decoy).Taken token := by
  simp [Taken, new]

/-- The decoy lets nobody in. -/
theorem check_eq_ok_iff {record decoy : Option String} {password : String} :
    check record decoy password = .ok () ↔
      ∃ stored, record = some stored ∧ Password.verify stored password = .ok () := by
  cases record with
  | some stored => simp [check]
  | none =>
      cases decoy with
      | none => simp [check]
      | some stored =>
          simp only [check, reduceCtorEq, false_and, exists_false, iff_false]
          split <;> simp

theorem freeDraw?_eq_some_iff {s : Store} {draws : Nat → String} {k : Nat} :
    s.freeDraw? draws = some k ↔
      k < maxDraws ∧ ¬s.Taken (draws k) ∧ ∀ j < k, s.Taken (draws j) := by
  simp only [freeDraw?, List.find?_range_eq_some, Table.contains, Taken]
  simp only [Bool.not_eq_true', Option.isSome_eq_false_iff, Option.isNone_iff_eq_none,
    Bool.not_not, Option.isSome_iff_ne_none, List.mem_range, ne_eq, Classical.not_not]
  exact and_left_comm

theorem freeDraw?_eq_none_iff {s : Store} {draws : Nat → String} :
    s.freeDraw? draws = none ↔ ∀ k < maxDraws, s.Taken (draws k) := by
  simp [freeDraw?, Table.contains, Taken]

theorem login_of_unavailable {s : Store} (hdown : s.available = false) (now : Timestamp)
    (draws : Nat → String) (identity password : String) :
    s.login now draws identity password = (refused .storeUnavailable, s) := by
  simp [login, records, hdown]

theorem login_of_error {s : Store} {identity password : String} {e : Password.HashError}
    (hav : s.available = true)
    (hcheck : check (s.users.get? identity) s.decoy password = .error e) (now : Timestamp)
    (draws : Nat → String) :
    s.login now draws identity password =
      (refused .loginFailed
        [.trace ("login rejected for " ++ identity ++ ": " ++ e.message)], s) := by
  simp [login, records, hav, hcheck]

theorem login_of_refused {s : Store} {identity password : String} (hav : s.available = true)
    (hcheck : check (s.users.get? identity) s.decoy password ≠ .ok ()) (now : Timestamp)
    (draws : Nat → String) :
    let login := s.login now draws identity password
    login.1.result = .error .loginFailed ∧ login.1.drawn = 0 ∧ login.2 = s := by
  intro login
  cases hc : check (s.users.get? identity) s.decoy password with
  | ok u => exact absurd hc hcheck
  | error e => simp [login, login_of_error hav hc, refused]

theorem login_of_taken {s : Store} {identity password : String} {draws : Nat → String}
    (hav : s.available = true)
    (hcheck : check (s.users.get? identity) s.decoy password = .ok ())
    (htaken : ∀ k < maxDraws, s.Taken (draws k)) (now : Timestamp) :
    s.login now draws identity password =
      ({ result := .error .tokenExhausted, drawn := maxDraws }, s) := by
  simp [login, records, grant, hav, hcheck, freeDraw?_eq_none_iff.mpr htaken]

theorem login_of_free {s : Store} {identity password : String} {draws : Nat → String} {k : Nat}
    (hav : s.available = true)
    (hcheck : check (s.users.get? identity) s.decoy password = .ok ())
    (hk : k < maxDraws) (hfree : ¬s.Taken (draws k)) (htaken : ∀ j < k, s.Taken (draws j))
    (now : Timestamp) :
    s.login now draws identity password =
      ({ result := .ok (draws k, now.plusDays lifetimeDays), drawn := k + 1
         log := [.trace ("session started for " ++ identity)] },
       { s with sessions :=
          s.sessions.insert (draws k) ⟨identity, now.plusDays lifetimeDays⟩ }) := by
  simp [login, records, grant, hav, hcheck, freeDraw?_eq_some_iff.mpr ⟨hk, hfree, htaken⟩]

/-- What a login can do, in the order in which it decides: the store is
unavailable, the password is refused, every draw is taken, or the first
free draw is recorded. -/
theorem login_cases (s : Store) (now : Timestamp) (draws : Nat → String)
    (identity password : String) :
    (s.available = false ∧
      s.login now draws identity password = (refused .storeUnavailable, s))
    ∨ (s.available = true ∧
      ∃ e, check (s.users.get? identity) s.decoy password = .error e ∧
        s.login now draws identity password =
          (refused .loginFailed
            [.trace ("login rejected for " ++ identity ++ ": " ++ e.message)], s))
    ∨ (s.available = true ∧
      check (s.users.get? identity) s.decoy password = .ok () ∧
      (∀ k < maxDraws, s.Taken (draws k)) ∧
      s.login now draws identity password =
        ({ result := .error .tokenExhausted, drawn := maxDraws }, s))
    ∨ (s.available = true ∧
      check (s.users.get? identity) s.decoy password = .ok () ∧
      ∃ k < maxDraws, ¬s.Taken (draws k) ∧ (∀ j < k, s.Taken (draws j)) ∧
        s.login now draws identity password =
          ({ result := .ok (draws k, now.plusDays lifetimeDays), drawn := k + 1
             log := [.trace ("session started for " ++ identity)] },
           { s with sessions :=
              s.sessions.insert (draws k) ⟨identity, now.plusDays lifetimeDays⟩ })) := by
  by_cases hav : s.available = true
  · refine Or.inr ?_
    cases hcheck : check (s.users.get? identity) s.decoy password with
    | error e => exact Or.inl ⟨hav, e, rfl, login_of_error hav hcheck now draws⟩
    | ok u =>
        refine Or.inr ?_
        cases hfree : s.freeDraw? draws with
        | none =>
            have htaken := freeDraw?_eq_none_iff.mp hfree
            exact Or.inl ⟨hav, rfl, htaken, login_of_taken hav hcheck htaken now⟩
        | some k =>
            obtain ⟨hk, hnew, hold⟩ := freeDraw?_eq_some_iff.mp hfree
            exact Or.inr ⟨hav, rfl, k, hk, hnew, hold,
              login_of_free hav hcheck hk hnew hold now⟩
  · have hdown := Bool.eq_false_iff.mpr hav
    exact Or.inl ⟨hdown, login_of_unavailable hdown now draws identity password⟩

/-- When a login succeeds. -/
theorem login_eq_ok_iff {s : Store} {now : Timestamp} {draws : Nat → String}
    {identity password : String} :
    (∃ token expires, (s.login now draws identity password).1.result = .ok (token, expires)) ↔
      s.available = true ∧ check (s.users.get? identity) s.decoy password = .ok ()
        ∧ ∃ k < maxDraws, ¬s.Taken (draws k) := by
  rcases s.login_cases now draws identity password with
    ⟨hdown, h⟩ | ⟨-, e, hcheck, h⟩ | ⟨-, -, htaken, h⟩ | ⟨hav, hcheck, k, hk, hfree, -, h⟩
  · simp [h, refused, hdown]
  · simp [h, refused, hcheck]
  · simp only [h, reduceCtorEq, exists_false, false_iff]
    rintro ⟨-, -, k, hk, hfree⟩
    exact hfree (htaken k hk)
  · rw [h]
    exact iff_of_true ⟨_, _, rfl⟩ ⟨hav, hcheck, k, hk, hfree⟩

/-- What becomes of the store: a login that fails leaves it as it was, and one that
succeeds records its token. -/
theorem login_failed_or_started (s : Store) (now : Timestamp) (draws : Nat → String)
    (identity password : String) :
    (∃ e, (s.login now draws identity password).1.result = .error e ∧
      (s.login now draws identity password).2 = s)
    ∨ ∃ k, s.login now draws identity password =
        ({ result := .ok (draws k, now.plusDays lifetimeDays), drawn := k + 1
           log := [.trace ("session started for " ++ identity)] },
         { s with sessions :=
            s.sessions.insert (draws k) ⟨identity, now.plusDays lifetimeDays⟩ }) := by
  rcases s.login_cases now draws identity password with
    ⟨-, h⟩ | ⟨-, e, -, h⟩ | ⟨-, -, -, h⟩ | ⟨-, -, k, -, -, -, h⟩
  · exact Or.inl ⟨.storeUnavailable, by rw [h]; exact ⟨rfl, rfl⟩⟩
  · exact Or.inl ⟨.loginFailed, by rw [h]; exact ⟨rfl, rfl⟩⟩
  · exact Or.inl ⟨.tokenExhausted, by rw [h]; exact ⟨rfl, rfl⟩⟩
  · exact Or.inr ⟨k, h⟩

/-- What starting a session can do: nothing, or record the first free draw for
the identity. -/
theorem grant_cases (s : Store) (now : Timestamp) (draws : Nat → String) (identity : String) :
    (∃ e, (s.grant now draws identity).1.result = .error e ∧ (s.grant now draws identity).2 = s)
    ∨ (∃ k, ¬s.Taken (draws k) ∧
      (s.grant now draws identity).1.result = .ok (draws k, now.plusDays lifetimeDays) ∧
      (s.grant now draws identity).2 = { s with
        sessions := s.sessions.insert (draws k) ⟨identity, now.plusDays lifetimeDays⟩ }) := by
  unfold grant
  split
  · cases hfree : s.freeDraw? draws with
    | none => exact Or.inl ⟨.tokenExhausted, rfl, rfl⟩
    | some k => exact Or.inr ⟨k, (freeDraw?_eq_some_iff.mp hfree).2.1, rfl, rfl⟩
  · exact Or.inl ⟨.storeUnavailable, rfl, rfl⟩

/-- Starting a session replaces no record. -/
theorem get?_grant {s : Store} {token : String} {session : Session}
    (h : s.sessions.get? token = some session) (now : Timestamp) (draws : Nat → String)
    (identity : String) :
    (s.grant now draws identity).2.sessions.get? token = some session := by
  rcases s.grant_cases now draws identity with ⟨e, -, hsame⟩ | ⟨k, hfree, -, hstate⟩
  · rw [hsame, h]
  · have hne : token ≠ draws k := by
      rintro rfl
      exact hfree (by rw [Taken, h]; nofun)
    rw [hstate, Table.get?_insert, if_neg hne, h]

/-! ## Logging out and looking up -/

theorem logout_of_available {s : Store} (hav : s.available = true) (token : String) :
    ∃ log, s.logout token = .ok (log, { s with sessions := s.sessions.erase token }) := by
  simp [logout, hav]

theorem logoutIdentity_of_available {s : Store} (hav : s.available = true)
    (identity : String) :
    ∃ count, s.logoutIdentity identity = .ok (count,
      { s with sessions := s.sessions.filter fun _ session => session.identity ≠ identity }) := by
  simp [logoutIdentity, hav]

theorem identity_of_available {s : Store} (hav : s.available = true) (now : Timestamp)
    (token : String) :
    s.identity now token = .ok (((s.sessions.get? token).filter
      fun session => now < session.expires).map (·.identity)) := by
  simp [Store.identity, hav]

theorem identity_of_unavailable {s : Store} (hav : s.available = false) (now : Timestamp)
    (token : String) : s.identity now token = .error .storeUnavailable := by
  simp [Store.identity, hav]

/-- A session that was just recorded is found until it expires. -/
theorem identity_insert {s : Store} (hav : s.available = true) (now : Timestamp) (token : String)
    (session : Session) :
    Store.identity { s with sessions := s.sessions.insert token session } now token =
      .ok (if now < session.expires then some session.identity else none) := by
  have hfound : (s.sessions.insert token session).get? token = some session := by
    rw [Table.get?_insert, if_pos rfl]
  have hlookup := identity_of_available
    (s := { s with sessions := s.sessions.insert token session }) hav now token
  rw [hfound] at hlookup
  rw [hlookup, Option.filter_some]
  by_cases hlt : now < session.expires
  · rw [if_pos hlt, if_pos (decide_eq_true hlt)]
    rfl
  · rw [if_neg hlt, if_neg (by simpa using hlt)]
    rfl

/-- A lookup finds whose session a token is: one that is recorded and has
not expired. -/
theorem identity_eq_ok_some_iff {s : Store} {now : Timestamp} {token identity : String} :
    s.identity now token = .ok (some identity) ↔
      s.available = true ∧ ∃ session, s.sessions.get? token = some session ∧
        now < session.expires ∧ session.identity = identity := by
  cases hav : s.available with
  | false => simp [identity_of_unavailable hav]
  | true =>
    simp [identity_of_available hav, Option.map_eq_some_iff, Option.filter_eq_some_iff,
      and_assoc]

/-- A lookup finds nobody: no session is recorded, or it has expired. -/
theorem identity_eq_ok_none_iff {s : Store} {now : Timestamp} {token : String} :
    s.identity now token = .ok none ↔
      s.available = true ∧ ∀ session, s.sessions.get? token = some session →
        ¬now < session.expires := by
  cases hav : s.available with
  | false => simp [identity_of_unavailable hav]
  | true => simp [identity_of_available hav, Option.filter_eq_none_iff]

end Store

namespace Clocked

/-! ## Frames -/

/-- Every operation keeps users and decoy, and all but `poison` keep the
store available. -/
theorem frame_perform (c : Clocked) (op : Operation) :
    (c.perform op).2.store.users = c.store.users ∧
      (c.perform op).2.store.decoy = c.store.decoy ∧
      ((c.perform op).2.store.available = true ↔
        c.store.available = true ∧ op ≠ .poison) := by
  cases op with
  | login identity password draws =>
      rcases c.store.login_cases c.now draws identity password with
        ⟨-, h⟩ | ⟨-, e, -, h⟩ | ⟨-, -, -, h⟩ | ⟨-, -, k, -, -, -, h⟩ <;> simp [perform, h]
  | logout token =>
      cases hav : c.store.available <;> simp [perform, Store.logout, hav]
  | logoutIdentity identity =>
      cases hav : c.store.available <;> simp [perform, Store.logoutIdentity, hav]
  | identity token => simp [perform]
  | advance secs nanos => simp [perform, advance]
  | poison => simp [perform, poison, Store.poison]

theorem users_runAll (c : Clocked) (ops : List Operation) :
    (c.runAll ops).2.store.users = c.store.users := by
  induction ops generalizing c with
  | nil => rfl
  | cons op rest ih => exact (ih _).trans (c.frame_perform op).1

theorem decoy_runAll (c : Clocked) (ops : List Operation) :
    (c.runAll ops).2.store.decoy = c.store.decoy := by
  induction ops generalizing c with
  | nil => rfl
  | cons op rest ih => exact (ih _).trans (c.frame_perform op).2.1

theorem available_runAll (c : Clocked) (ops : List Operation) :
    (c.runAll ops).2.store.available = true ↔
      c.store.available = true ∧ Operation.poison ∉ ops := by
  induction ops generalizing c with
  | nil => simp [runAll]
  | cons op rest ih =>
      have hstep := (c.frame_perform op).2.2
      rw [runAll, ih, hstep, List.mem_cons, not_or, and_assoc]
      exact and_congr_right' (and_congr_left' ne_comm)

/-! ## Recorded tokens -/

/-- Only a login records a token, and only one of its draws. -/
theorem taken_perform {c : Clocked} {op : Operation} {token : String}
    (h : (c.perform op).2.store.Taken token) :
    c.store.Taken token ∨
      ∃ identity password draws, op = .login identity password draws ∧ ∃ k, token = draws k := by
  cases op with
  | login identity password draws =>
      rcases c.store.login_failed_or_started c.now draws identity password with
        ⟨e, -, hsame⟩ | ⟨k, hl⟩
      · exact Or.inl (by simpa [perform, hsame] using h)
      · by_cases htoken : token = draws k
        · exact Or.inr ⟨identity, password, draws, rfl, k, htoken⟩
        · refine Or.inl ?_
          simpa [perform, hl, Store.Taken, Table.get?_insert, htoken] using h
  | logout other =>
      refine Or.inl fun hnone => h ?_
      cases hav : c.store.available <;> simp [perform, Store.logout, hav, Table.get?_erase, hnone]
  | logoutIdentity identity =>
      refine Or.inl fun hnone => h ?_
      cases hav : c.store.available <;>
        simp [perform, Store.logoutIdentity, hav, Table.get?_filter, hnone]
  | identity other => exact Or.inl h
  | advance secs nanos => exact Or.inl h
  | poison => exact Or.inl h

theorem taken_runAll {c : Clocked} {ops : List Operation} {token : String}
    (h : (c.runAll ops).2.store.Taken token) :
    c.store.Taken token ∨
      ∃ identity password draws, .login identity password draws ∈ ops ∧ ∃ k, token = draws k := by
  induction ops generalizing c with
  | nil => exact Or.inl h
  | cons op rest ih =>
      rcases ih h with hfirst | ⟨identity, password, draws, hmem, hdraw⟩
      · rcases taken_perform hfirst with hold | ⟨identity, password, draws, rfl, hdraw⟩
        · exact Or.inl hold
        · exact Or.inr ⟨identity, password, draws, List.mem_cons_self .., hdraw⟩
      · exact Or.inr ⟨identity, password, draws, List.mem_cons_of_mem _ hmem, hdraw⟩

theorem runAll_append (c : Clocked) (ops more : List Operation) :
    (c.runAll (ops ++ more)).2 = ((c.runAll ops).2.runAll more).2 := by
  induction ops generalizing c with
  | nil => rfl
  | cons op rest ih => exact ih (c.perform op).2

end Clocked

end MenuHost.Sessions
