import MenuHost.Proofs.Sessions.History

/-!
# One life for each token

A token whose session has ended could come back in two ways: the store
records it again, or the clock moves back to before an expiry, for
expired sessions stay recorded. This file shows that there is no third
way.

- `Clocked.get?_perform` is the step: an operation records nothing but
  what it has drawn. A record of any other token was there before, with
  the same owner and the same expiry, and `Clocked.get?_runAll` says so
  of a run.
- `ended_for_good` rules out both ways for a whole run, by a generator
  that never repeats a token and a clock that never moves back. A token
  then belongs to one identity, and once its session has ended, by a
  logout or by expiry, it is nobody's ever after.
-/

namespace MenuHost.Sessions

open MenuHost.Time

/-! ## Tokens that were drawn -/

/-- The tokens that an operation drew, in order. -/
def Event.drawn (e : Event) : List String :=
  match e.op with
  | .login _ _ draws => (List.range e.step.drawn).map draws
  | _ => []

def drawnTokens (events : List Event) : List String :=
  events.flatMap Event.drawn

/-- Some login returned the token for the identity. -/
def Issued (events : List Event) (token identity : String) : Prop :=
  ∃ e ∈ events, e.Starts token identity

theorem drawnTokens_append (events more : List Event) :
    drawnTokens (events ++ more) = drawnTokens events ++ drawnTokens more :=
  List.flatMap_append

namespace Clocked

theorem history_append (c : Clocked) (ops more : List Operation) :
    c.history (ops ++ more) = c.history ops ++ (c.runAll ops).2.history more := by
  induction ops generalizing c with
  | nil => rfl
  | cons op rest ih =>
      show c.event op :: (c.perform op).2.history (rest ++ more) = _
      rw [ih]
      rfl

/-- An event of a run is that of one of its operations, after those before it. -/
theorem exists_of_mem_history {c : Clocked} {ops : List Operation} {e : Event}
    (h : e ∈ c.history ops) :
    ∃ before op after, ops = before ++ op :: after ∧ e = (c.runAll before).2.event op := by
  induction ops generalizing c with
  | nil => cases h
  | cons op rest ih =>
      rcases List.mem_cons.mp h with rfl | hmem
      · exact ⟨[], op, rest, rfl, rfl⟩
      · obtain ⟨before, op', after, rfl, rfl⟩ := ih hmem
        exact ⟨op :: before, op', after, rfl, rfl⟩

/-! ## Records come from draws -/

/-- An operation records nothing but what it has drawn. -/
theorem get?_perform {c : Clocked} {op : Operation} {token : String} {session : Session}
    (h : (c.perform op).2.store.sessions.get? token = some session) :
    c.store.sessions.get? token = some session ∨ token ∈ (c.event op).drawn := by
  cases op with
  | login identity password draws =>
      have hdrawn : (c.event (.login identity password draws)).drawn
          = (List.range (c.store.login c.now draws identity password).1.drawn).map draws := rfl
      rcases c.store.login_failed_or_started c.now draws identity password with
        ⟨e, -, hsame⟩ | ⟨k, hl⟩
      · exact Or.inl (by simpa [perform, hsame] using h)
      · by_cases htoken : token = draws k
        · refine Or.inr ?_
          rw [hdrawn, hl, htoken]
          exact List.mem_map_of_mem (List.mem_range.mpr (Nat.lt_succ_self k))
        · exact Or.inl (by simpa [perform, hl, Table.get?_insert, htoken] using h)
  | logout other =>
      refine Or.inl ?_
      cases hav : c.store.available with
      | false => simpa [perform, Store.logout, hav] using h
      | true =>
          by_cases htoken : token = other
          · simp [perform, Store.logout, hav, Table.get?_erase, htoken] at h
          · simpa [perform, Store.logout, hav, Table.get?_erase, htoken] using h
  | logoutIdentity identity =>
      refine Or.inl ?_
      cases hav : c.store.available with
      | false => simpa [perform, Store.logoutIdentity, hav] using h
      | true =>
          simp only [perform, Store.logoutIdentity, hav, if_true, Table.get?_filter] at h
          exact (Option.filter_eq_some_iff.mp h).1
  | identity other => exact Or.inl h
  | advance secs nanos => exact Or.inl h
  | poison => exact Or.inl h

/-- A run records nothing but what it has drawn. -/
theorem get?_runAll {c : Clocked} {ops : List Operation} {token : String} {session : Session}
    (hdrawn : token ∉ drawnTokens (c.history ops))
    (h : (c.runAll ops).2.store.sessions.get? token = some session) :
    c.store.sessions.get? token = some session := by
  induction ops generalizing c with
  | nil => exact h
  | cons op rest ih =>
      obtain ⟨hfirst, hrest⟩ := not_or.mp (mt List.mem_append.mpr hdrawn)
      exact (get?_perform (ih hrest h)).resolve_right hfirst

/-- A login that returned a token has drawn it, and its session is recorded. -/
theorem get?_of_starts {c : Clocked} {op : Operation} {token identity : String}
    (h : (c.event op).Starts token identity) :
    token ∈ (c.event op).drawn
      ∧ ∃ expires, (c.perform op).2.store.sessions.get? token = some ⟨identity, expires⟩ := by
  obtain ⟨⟨password, draws, hop⟩, expires, hresult⟩ := h
  obtain rfl : op = .login identity password draws := hop
  have hok : (c.store.login c.now draws identity password).1.result.map
      (fun granted => Answer.started granted.1 granted.2) = .ok (.started token expires) := hresult
  rcases c.store.login_failed_or_started c.now draws identity password with
    ⟨e, herror, -⟩ | ⟨k, hl⟩
  · rw [herror] at hok
    cases hok
  · rw [hl] at hok
    obtain ⟨rfl, rfl⟩ := Answer.started.inj (Except.ok.inj hok)
    refine ⟨?_, c.now.plusDays lifetimeDays, ?_⟩
    · show draws k ∈ (List.range (c.store.login c.now draws identity password).1.drawn).map draws
      rw [hl]
      exact List.mem_map_of_mem (List.mem_range.mpr (Nat.lt_succ_self k))
    · simp [perform, hl, Table.get?_insert]

/-! ## Clocks that never move back -/

/-- No operation of the run moves the clock back. -/
def NeverBack (c : Clocked) : List Operation → Prop
  | [] => True
  | op :: rest => ¬(c.perform op).2.now < c.now ∧ (c.perform op).2.NeverBack rest

theorem neverBack_append {c : Clocked} {ops more : List Operation} :
    c.NeverBack (ops ++ more) ↔ c.NeverBack ops ∧ (c.runAll ops).2.NeverBack more := by
  induction ops generalizing c with
  | nil => exact (and_iff_right trivial).symm
  | cons op rest ih =>
      show _ ∧ (c.perform op).2.NeverBack (rest ++ more) ↔ (_ ∧ _) ∧ _
      rw [ih, and_assoc]
      rfl

theorem not_now_lt {c : Clocked} {ops : List Operation} (h : c.NeverBack ops) :
    ¬(c.runAll ops).2.now < c.now := by
  induction ops generalizing c with
  | nil =>
      show ¬c.now < c.now
      rw [Timestamp.lt_iff]
      omega
  | cons op rest ih =>
      have hlater : ¬(c.runAll (op :: rest)).2.now < (c.perform op).2.now := ih h.2
      have hfirst := h.1
      rw [Timestamp.lt_iff] at hlater hfirst ⊢
      omega

theorem now_perform (c : Clocked) {op : Operation} (h : ∀ secs nanos, op ≠ .advance secs nanos) :
    (c.perform op).2.now = c.now := by
  cases op with
  | login identity password draws => rfl
  | logout token => cases hl : c.store.logout token <;> simp [perform, hl]
  | logoutIdentity identity => cases hl : c.store.logoutIdentity identity <;> simp [perform, hl]
  | identity token => rfl
  | advance secs nanos => exact absurd rfl (h secs nanos)
  | poison => rfl

/-- A run in which time passes forwards only. -/
theorem neverBack_of_forward {c : Clocked} {ops : List Operation}
    (h : ∀ secs nanos, .advance secs nanos ∈ ops → 0 ≤ secs ∧ 0 ≤ nanos) : c.NeverBack ops := by
  induction ops generalizing c with
  | nil => trivial
  | cons op rest ih =>
      refine ⟨?_, ih fun secs nanos hmem => h secs nanos (List.mem_cons_of_mem _ hmem)⟩
      by_cases hop : ∃ secs nanos, op = .advance secs nanos
      · obtain ⟨secs, nanos, rfl⟩ := hop
        obtain ⟨hsecs, hnanos⟩ := h secs nanos (List.mem_cons_self ..)
        show ¬c.now.advance secs nanos < c.now
        simp only [Timestamp.lt_iff, Timestamp.advance, nanosPerSecond]
        omega
      · rw [now_perform c fun secs nanos heq => hop ⟨secs, nanos, heq⟩, Timestamp.lt_iff]
        omega

/-- A token that is nobody's stays so in a run that does not draw it. -/
theorem owner_runAll_of_none {c : Clocked} {ops : List Operation} {token : String}
    (hclock : c.NeverBack ops) (hdrawn : token ∉ drawnTokens (c.history ops))
    (hnone : c.owner token = .ok none) :
    (c.runAll ops).2.owner token = .ok none
      ∨ Operation.poison ∈ ops ∧ (c.runAll ops).2.owner token = .error .storeUnavailable := by
  obtain ⟨hav, hended⟩ := Store.identity_eq_ok_none_iff.mp hnone
  cases hafter : (c.runAll ops).2.store.available with
  | false =>
      refine Or.inr ⟨Classical.byContradiction fun hpoison => ?_,
        Store.identity_of_unavailable hafter _ token⟩
      rw [(c.available_runAll ops).mpr ⟨hav, hpoison⟩] at hafter
      cases hafter
  | true =>
      refine Or.inl (Store.identity_eq_ok_none_iff.mpr ⟨hafter, fun session hget => ?_⟩)
      -- what is still recorded had expired, and no time has come back since
      have hexpired := hended session (get?_runAll hdrawn hget)
      have hnow := not_now_lt hclock
      rw [Timestamp.lt_iff] at hexpired hnow ⊢
      omega

end Clocked

/-! ## The life of a token -/

namespace Clocked

/-- Without repeated draws, what a run has drawn is not drawn after it. -/
theorem not_drawn_again {c : Clocked} {ops more : List Operation} {token : String}
    (hfresh : (drawnTokens (c.history (ops ++ more))).Nodup)
    (hdrawn : token ∈ drawnTokens (c.history ops)) :
    token ∉ drawnTokens ((c.runAll ops).2.history more) := by
  intro hagain
  rw [history_append, drawnTokens_append, List.nodup_append] at hfresh
  exact hfresh.2.2 token hdrawn token hagain rfl

/-- What a run does not draw, no beginning of it draws. -/
theorem not_drawn_of_part {c : Clocked} {ops done : List Operation} {token : String}
    (hdone : done <+: ops) (hdrawn : token ∉ drawnTokens (c.history ops)) :
    token ∉ drawnTokens (c.history done) := by
  obtain ⟨rest, rfl⟩ := hdone
  rw [history_append, drawnTokens_append, List.mem_append, not_or] at hdrawn
  exact hdrawn.1

/-- A beginning of a run that issues a token ends before the login that issues
it, or goes on after it. -/
theorem prefix_cases {before after done : List Operation} {op : Operation}
    (h : done <+: before ++ op :: after) :
    done <+: before ∨ ∃ mid, mid <+: after ∧ done = before ++ op :: mid := by
  rcases List.prefix_or_prefix_of_prefix h (List.prefix_append before _) with hdone | ⟨rest, rfl⟩
  · exact Or.inl hdone
  · have hrest : rest <+: op :: after := (List.prefix_append_right_inj before).mp h
    rcases List.prefix_cons_iff.mp hrest with rfl | ⟨mid, rfl, hmid⟩
    · exact Or.inl (by simp)
    · exact Or.inr ⟨mid, hmid, rfl⟩

/-- Without repeated draws the only record that a token ever has is the one of
the login that issued it. -/
theorem identity_of_issued {c : Clocked} {before after done : List Operation} {op : Operation}
    {token identity : String} {session : Session}
    (hfresh : (drawnTokens (c.history (before ++ op :: after))).Nodup)
    (hnew : c.store.sessions.get? token = none)
    (hstarts : ((c.runAll before).2.event op).Starts token identity)
    (hdone : done <+: before ++ op :: after)
    (hget : (c.runAll done).2.store.sessions.get? token = some session) :
    session.identity = identity := by
  obtain ⟨hdraws, expires, hrecorded⟩ := get?_of_starts hstarts
  rcases prefix_cases hdone with hearly | ⟨mid, hmid, rfl⟩
  · have hdrawn : token ∈ drawnTokens ((c.runAll before).2.history (op :: after)) :=
      List.mem_append_left _ hdraws
    have hbefore : token ∉ drawnTokens (c.history before) := fun h =>
      not_drawn_again hfresh h hdrawn
    cases hnew.symm.trans (get?_runAll (not_drawn_of_part hearly hbefore) hget)
  · rw [List.append_cons] at hfresh
    have hissue : token ∈ drawnTokens (c.history (before ++ [op])) := by
      rw [history_append, drawnTokens_append]
      exact List.mem_append_right _ (List.mem_append_left _ hdraws)
    have hafter := not_drawn_of_part hmid (not_drawn_again hfresh hissue)
    rw [List.append_cons, runAll_append] at hget
    have hkept := get?_runAll hafter hget
    rw [runAll_append] at hkept
    obtain rfl := Option.some.inj (hkept.symm.trans hrecorded)
    rfl

end Clocked

/-- **One life.** In a run whose draws are all different and whose clock never
moves back, a token that was issued is never anybody's but the identity's of the
login that issued it; and once it is nobody's, it is so after every later
operation, unless the store was made unavailable and answers nothing. -/
theorem ended_for_good (users : List User) (decoy : Option String) (now : Timestamp)
    {ops : List Operation} (hclock : (Clocked.start users decoy now).NeverBack ops)
    (hfresh : (drawnTokens ((Clocked.start users decoy now).history ops)).Nodup)
    {token identity : String}
    (hissued : Issued ((Clocked.start users decoy now).history ops) token identity) :
    let c := Clocked.start users decoy now
    let whose := fun done => (c.runAll done).2.owner token
    (∀ done, done <+: ops → ∀ other, whose done = .ok (some other) → other = identity)
      ∧ ∀ done later, done <+: later → later <+: ops → Issued (c.history done) token identity →
        whose done = .ok none →
        whose later = .ok none
          ∨ Operation.poison ∈ later ∧ whose later = .error .storeUnavailable := by
  intro c whose
  constructor
  · intro done hdone other howner
    obtain ⟨e, hmem, hstarts⟩ := hissued
    obtain ⟨before, op, after, rfl, rfl⟩ := Clocked.exists_of_mem_history hmem
    obtain ⟨-, session, hget, -, rfl⟩ := Store.identity_eq_ok_some_iff.mp howner
    exact Clocked.identity_of_issued hfresh rfl hstarts hdone hget
  · rintro done later ⟨more, rfl⟩ ⟨rest, rfl⟩ ⟨e, hmem, hstarts⟩ hnone
    have hdrawn : token ∈ drawnTokens (c.history done) := by
      obtain ⟨before, op, after, rfl, rfl⟩ := Clocked.exists_of_mem_history hmem
      exact List.mem_flatMap.mpr ⟨_, hmem, (Clocked.get?_of_starts hstarts).1⟩
    rw [List.append_assoc] at hfresh hclock
    have hnever := Clocked.not_drawn_of_part (List.prefix_append more rest)
      (Clocked.not_drawn_again hfresh hdrawn)
    obtain ⟨hmore, -⟩ := Clocked.neverBack_append.mp (Clocked.neverBack_append.mp hclock).2
    show (c.runAll (done ++ more)).2.owner token = _
      ∨ _ ∧ (c.runAll (done ++ more)).2.owner token = _
    rw [Clocked.runAll_append]
    rcases Clocked.owner_runAll_of_none hmore hnever hnone with hstill | ⟨hpoison, hdown⟩
    · exact Or.inl hstill
    · exact Or.inr ⟨List.mem_append_right _ hpoison, hdown⟩

/-- Alice logs in and out. A month later the same token is still nobody's,
although she has logged in again. -/
theorem ended_for_good_alice :
    ∃ record,
      let c := Clocked.start [⟨"alice", record⟩] none Timestamp.epoch
      let login := fun token => Operation.login "alice" "wonderland" fun _ => token
      let done := [login "abc", .logout "abc"]
      let ops := done ++ [.advance 2592000 0] ++ [login "xyz"]
      c.NeverBack ops ∧ (drawnTokens (c.history ops)).Nodup
        ∧ Issued (c.history done) "abc" "alice"
        ∧ (c.runAll done).2.owner "abc" = .ok none
        ∧ (c.runAll ops).2.owner "xyz" = .ok (some "alice")
        ∧ (c.runAll ops).2.owner "abc" = .ok none := by
  obtain ⟨record, -, hverify⟩ := Password.exists_record (Vector.replicate 16 0)
    (show "wonderland".utf8ByteSize < Password.passwordLimit by decide)
  refine ⟨record, ?_⟩
  intro c login done ops
  have hcheck : Store.check (c.store.users.get? "alice") c.store.decoy "wonderland" = .ok () :=
    Store.check_eq_ok_iff.mpr ⟨record, rfl, hverify⟩
  -- a login of hers takes its first draw wherever that is free
  have hlogin : ∀ (before : List Operation) (token : String), Operation.poison ∉ before →
      ¬(c.runAll before).2.store.Taken token →
      ((c.runAll before).2.event (login token)).drawn = [token]
        ∧ ((c.runAll before).2.event (login token)).Starts token "alice"
        ∧ ((c.runAll before).2.perform (login token)).2.owner token = .ok (some "alice") := by
    intro before token hbefore hfree
    have hav := (c.available_runAll before).mpr ⟨rfl, hbefore⟩
    have hadmits := hcheck
    rw [← c.users_runAll before, ← c.decoy_runAll before] at hadmits
    have hgranted : (c.runAll before).2.store.login (c.runAll before).2.now (fun _ => token)
        "alice" "wonderland" = _ :=
      Store.login_of_free (k := 0) hav hadmits (by decide) hfree (by simp) _
    refine ⟨?_, ⟨⟨_, _, rfl⟩, (c.runAll before).2.now.plusDays lifetimeDays, ?_⟩,
      Clocked.owner_perform_login (k := 0) hav hadmits (by decide) hfree (by simp)⟩
    · simp [Event.drawn, Clocked.event, Clocked.perform, login, hgranted]
    · simp [Clocked.event, Clocked.perform, login, hgranted, Except.map]
  obtain ⟨hfirst, hstarts, -⟩ := hlogin [] "abc" (by simp) (Store.not_taken_new _ none _)
  have hpause : drawnTokens (c.history (done ++ [.advance 2592000 0])) = ["abc"] :=
    congrArg (· ++ []) hfirst
  obtain ⟨hsecond, -, howner⟩ := hlogin (done ++ [.advance 2592000 0]) "xyz" (by simp [done, login])
    fun htaken => by
      obtain ⟨session, hget⟩ := Option.ne_none_iff_exists'.mp htaken
      cases Clocked.get?_runAll (by rw [hpause]; decide) hget
  have hclock : c.NeverBack ops := Clocked.neverBack_of_forward (by simp [ops, done, login])
  have hfresh : (drawnTokens (c.history ops)).Nodup := by
    rw [Clocked.history_append, drawnTokens_append, hpause]
    show (["abc"] ++ (Event.drawn _ ++ [])).Nodup
    rw [hsecond]
    decide
  have hissued : Issued (c.history done) "abc" "alice" := ⟨_, List.mem_cons_self .., hstarts⟩
  have hended : (c.runAll done).2.owner "abc" = .ok none := by
    obtain ⟨log, hlogout⟩ := Store.logout_of_available
      ((c.available_runAll [login "abc"]).mpr ⟨rfl, by simp [login]⟩) "abc"
    have hstate : (c.runAll done).2
        = (Clocked.perform (c.runAll [login "abc"]).2 (.logout "abc")).2 := rfl
    rw [hstate, Clocked.perform, hlogout]
    refine Store.identity_eq_ok_none_iff.mpr ⟨?_, fun session hget => ?_⟩
    · exact (c.available_runAll [login "abc"]).mpr ⟨rfl, by simp [login]⟩
    · simp [Table.get?_erase] at hget
  have hverdict := ended_for_good [⟨"alice", record⟩] none Timestamp.epoch hclock hfresh
    ⟨_, List.mem_cons_self .., hstarts⟩
  refine ⟨hclock, hfresh, hissued, hended, ?_, ?_⟩
  · rw [Clocked.runAll_append]
    exact howner
  · have hprefix : done <+: ops := ⟨_, (List.append_assoc ..).symm⟩
    refine (hverdict.2 done ops hprefix List.prefix_rfl hissued hended).resolve_right ?_
    rintro ⟨hpoison, -⟩
    simp [ops, done, login] at hpoison

end MenuHost.Sessions
