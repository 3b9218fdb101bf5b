import Mathlib.Data.Set.Card
import MenuHost.Proofs.Sessions.History

/-!
# Ending all sessions of an identity

What `logoutIdentity` counts, and what it leaves. The count is a difference
of two sizes, so it is right only if the records that are taken away are
those of the identity and no others. Here the two halves of the table get
names: `Store.ownedBy` are the records of an identity and `Store.without` is
the store that has all the others. A logout counts the first and leaves the
second (`Store.logoutIdentity_eq`), and all that holds of repeated logouts,
and of logouts of two identities, are equations between these halves.

Records are tied to the run by `Recorded`: an identity owns just the tokens
that it was issued and that nobody has ended since (`encard_standing`).
Expiry takes no part in it.
-/

namespace MenuHost

namespace Table

variable {α : Type}

theorem filter_filter (p q : String → α → Bool) (t : Table α) :
    (t.filter p).filter q = t.filter fun k v => q k v && p k v := by
  simp only [filter, List.filter_filter]

/-- A filter and its opposite share a table between them. -/
theorem size_filter_add (p : String → α → Bool) (t : Table α) :
    (t.filter p).size + (t.filter fun k v => !p k v).size = t.size :=
  (List.length_eq_length_filter_add fun e : String × α => p e.1 e.2).symm

/-- A table is as large as the set of keys that it finds something for. -/
theorem encard_keys (t : Table α) : {k | ∃ value, t.get? k = some value}.encard = t.size := by
  have hkeys : {k | ∃ value, t.get? k = some value} = (t.keys.toFinset : Set String) := by
    ext k
    rw [List.coe_toFinset]
    exact mem_keys_iff.symm
  rw [hkeys, Set.encard_coe_eq_coe_finsetCard, List.toFinset_card_of_nodup t.nodup_keys, keys,
    List.length_map, size]

end Table

namespace Sessions

open MenuHost.Time

namespace Store

/-- The records of an identity, expired ones too. -/
def ownedBy (s : Store) (identity : String) : Table Session :=
  s.sessions.filter fun _ session => session.identity = identity

def without (s : Store) (identity : String) : Store :=
  { s with sessions := s.sessions.filter fun _ session => session.identity ≠ identity }

/-- A logout of an identity counts its records and leaves all others. -/
theorem logoutIdentity_eq {s : Store} (hav : s.available = true) (identity : String) :
    s.logoutIdentity identity = .ok ((s.ownedBy identity).size, s.without identity) := by
  have hsizes := s.sessions.size_filter_add fun _ session => decide (session.identity = identity)
  simp only [← decide_not] at hsizes
  simp only [logoutIdentity, hav, if_true, ownedBy, without, ne_eq]
  rw [← hsizes, Nat.add_sub_cancel]

theorem get?_ownedBy {s : Store} {identity token : String} {session : Session} :
    (s.ownedBy identity).get? token = some session ↔
      s.sessions.get? token = some session ∧ session.identity = identity := by
  simp [ownedBy, Table.get?_filter, Option.filter_eq_some_iff]

theorem get?_without {s : Store} {identity token : String} {session : Session} :
    (s.without identity).sessions.get? token = some session ↔
      s.sessions.get? token = some session ∧ session.identity ≠ identity := by
  simp [without, Table.get?_filter, Option.filter_eq_some_iff]

theorem ownedBy_without_self (s : Store) (identity : String) :
    (s.without identity).ownedBy identity = .empty := by
  refine Table.ext fun token => Option.eq_none_iff_forall_ne_some.mpr fun session hget => ?_
  rw [get?_ownedBy, get?_without] at hget
  exact hget.1.2 hget.2

theorem ownedBy_without {s : Store} {identity other : String} (h : other ≠ identity) :
    (s.without other).ownedBy identity = s.ownedBy identity := by
  refine Table.ext fun token => Option.ext fun session => ?_
  rw [get?_ownedBy, get?_ownedBy, get?_without]
  constructor
  · rintro ⟨⟨hget, -⟩, howner⟩
    exact ⟨hget, howner⟩
  · rintro ⟨hget, rfl⟩
    exact ⟨⟨hget, h.symm⟩, rfl⟩

theorem without_without_self (s : Store) (identity : String) :
    (s.without identity).without identity = s.without identity := by
  simp only [without, Table.filter_filter, Bool.and_self]

theorem without_comm (s : Store) (identity other : String) :
    (s.without identity).without other = (s.without other).without identity := by
  simp only [without, Table.filter_filter, Bool.and_comm]

/-- A lookup reads the record of its token and no other. -/
theorem identity_congr {s s' : Store} {token : String} (hav : s'.available = s.available)
    (hget : s'.sessions.get? token = s.sessions.get? token) (now : Timestamp) :
    s'.identity now token = s.identity now token := by
  rw [identity, identity, hav, hget]

/-- The record of another identity stays as it is. -/
theorem get?_without_of_ne {s : Store} {identity token : String}
    (h : ∀ session, s.sessions.get? token = some session → session.identity ≠ identity) :
    (s.without identity).sessions.get? token = s.sessions.get? token := by
  refine Option.ext fun session => ?_
  rw [get?_without]
  exact and_iff_left_of_imp (h session)

end Store

/-! ## Histories -/

/-- The tokens that were issued to an identity and not ended since, expired ones
too. -/
def standing (events : List Event) (identity : String) : Set String :=
  {token | ∃ started, Stands events token identity started}

namespace Recorded

variable {c : Clocked} {events : List Event}

theorem mem_standing_iff (h : Recorded c events) {token identity : String} :
    token ∈ standing events identity ↔
      ∃ session, (c.store.ownedBy identity).get? token = some session := by
  constructor
  · rintro ⟨started, hstands⟩
    have hget := (h token ⟨identity, expiryOf started⟩).mpr ⟨started, hstands, rfl⟩
    exact ⟨_, Store.get?_ownedBy.mpr ⟨hget, rfl⟩⟩
  · rintro ⟨session, hget⟩
    obtain ⟨hrecord, rfl⟩ := Store.get?_ownedBy.mp hget
    obtain ⟨started, hstands, -⟩ := (h token session).mp hrecord
    exact ⟨started, hstands⟩

theorem encard_standing (h : Recorded c events) (identity : String) :
    (standing events identity).encard = (c.store.ownedBy identity).size := by
  have hkeys : standing events identity
      = {token | ∃ session, (c.store.ownedBy identity).get? token = some session} := by
    ext token
    exact h.mem_standing_iff
  rw [hkeys, Table.encard_keys]

end Recorded

namespace Clocked

theorem perform_logoutIdentity {c : Clocked} (hav : c.store.available = true) (identity : String) :
    c.perform (.logoutIdentity identity) =
      ({ result := .ok (.ended (c.store.ownedBy identity).size) },
        { c with store := c.store.without identity }) := by
  simp only [perform, Store.logoutIdentity_eq hav]

theorem perform_logoutIdentity_again {c : Clocked} (hav : c.store.available = true)
    (identity : String) :
    perform { c with store := c.store.without identity } (.logoutIdentity identity) =
      ({ result := .ok (.ended 0) }, { c with store := c.store.without identity }) := by
  rw [perform_logoutIdentity (c := { c with store := c.store.without identity }) hav,
    Store.ownedBy_without_self, Store.without_without_self]
  rfl

/-- The second of two logouts counts what it would have counted as the first. -/
theorem runAll_logoutIdentity_two {c : Clocked} (hav : c.store.available = true)
    {identity other : String} (hne : identity ≠ other) :
    c.runAll [.logoutIdentity identity, .logoutIdentity other] =
      ([{ result := .ok (.ended (c.store.ownedBy identity).size) },
          { result := .ok (.ended (c.store.ownedBy other).size) }],
        { c with store := (c.store.without identity).without other }) := by
  have hsecond := perform_logoutIdentity
    (c := { c with store := c.store.without identity }) hav other
  simp only [runAll, perform_logoutIdentity hav, hsecond, Store.ownedBy_without hne]

/-- While only the clock moves, what a token is found to be depends on its own
record. -/
theorem owner_runAll_of_idle {c d : Clocked} {ops : List Operation} {token : String}
    (hops : ∀ op ∈ ops, op.IsIdle) (hnow : d.now = c.now)
    (hav : d.store.available = c.store.available)
    (hget : d.store.sessions.get? token = c.store.sessions.get? token) :
    (d.runAll ops).2.owner token = (c.runAll ops).2.owner token := by
  induction ops generalizing c d with
  | nil =>
      rw [runAll, runAll, owner, owner, hnow]
      exact Store.identity_congr hav hget c.now
  | cons op rest ih =>
      have hrest : ∀ op ∈ rest, op.IsIdle := fun op hop => hops op (List.mem_cons_of_mem _ hop)
      have hidle := hops op (List.mem_cons_self ..)
      cases op with
      | identity other => exact ih hrest hnow hav hget
      | advance secs nanos => exact ih hrest (congrArg (·.advance secs nanos) hnow) hav hget
      -- an unavailable store answers the same, whatever is in it
      | poison => exact ih hrest hnow rfl hget
      | _ => exact hidle.elim

end Clocked

/-- **Ending all sessions of an identity.** After any run of a store that was not
made unavailable, a logout of an identity returns the number of its tokens that
stand, which is at least the number of those that have not expired by any clock.
It leaves no record of the identity, and as long as only the clock moves every
other token is found to be what it would have been. A second logout ends nothing
and changes nothing, and of the logouts of two identities it does not matter
which one comes first. -/
theorem logoutIdentity_runAll (users : List User) (decoy : Option String) (now : Timestamp)
    {ops : List Operation} (hops : Operation.poison ∉ ops) (identity : String) :
    let start := Clocked.start users decoy now
    let c := (start.runAll ops).2
    let after := (c.perform (.logoutIdentity identity)).2
    ∃ count : Nat, (c.perform (.logoutIdentity identity)).1 = { result := .ok (.ended count) }
      ∧ (standing (start.history ops) identity).encard = count
      ∧ (∀ clock, {token | c.store.identity clock token = .ok (some identity)}.encard ≤ count)
      ∧ (∀ token session, after.store.sessions.get? token = some session →
          session.identity ≠ identity)
      ∧ (∀ token, (∀ session, c.store.sessions.get? token = some session →
            session.identity ≠ identity) →
          ∀ rest, (∀ op ∈ rest, op.IsIdle) →
            (after.runAll rest).2.owner token = (c.runAll rest).2.owner token)
      ∧ after.perform (.logoutIdentity identity) = ({ result := .ok (.ended 0) }, after)
      ∧ ∀ other, other ≠ identity →
          let first := c.runAll [.logoutIdentity identity, .logoutIdentity other]
          c.runAll [.logoutIdentity other, .logoutIdentity identity]
            = (first.1.reverse, first.2) := by
  intro start c after
  have hav : c.store.available = true := (start.available_runAll ops).mpr ⟨rfl, hops⟩
  have hrec : Recorded c (start.history ops) := (Recorded.start users decoy now).runAll rfl hops
  have hafter : after = { c with store := c.store.without identity } :=
    congrArg Prod.snd (Clocked.perform_logoutIdentity hav identity)
  refine ⟨(c.store.ownedBy identity).size, ?_, hrec.encard_standing identity, ?_, ?_, ?_, ?_, ?_⟩
  · rw [Clocked.perform_logoutIdentity hav]
  · intro clock
    rw [← Table.encard_keys]
    refine Set.encard_le_encard fun token hfound => ?_
    obtain ⟨-, session, hget, -, howner⟩ := Store.identity_eq_ok_some_iff.mp hfound
    exact ⟨session, Store.get?_ownedBy.mpr ⟨hget, howner⟩⟩
  · intro token session hget
    rw [hafter] at hget
    exact (Store.get?_without.mp hget).2
  · intro token hother rest hrest
    rw [hafter]
    exact Clocked.owner_runAll_of_idle hrest rfl rfl (Store.get?_without_of_ne hother)
  · rw [hafter]
    exact Clocked.perform_logoutIdentity_again hav identity
  · intro other hne
    show c.runAll [.logoutIdentity other, .logoutIdentity identity] = _
    rw [Clocked.runAll_logoutIdentity_two hav hne, Clocked.runAll_logoutIdentity_two hav hne.symm,
      Store.without_comm]
    rfl

/-- Alice has two sessions, of which the first expired yesterday, and Bob has one.
Ending hers ends two. -/
theorem logoutIdentity_runAll_alice :
    ∃ record,
      let start := Clocked.start [⟨"alice", record⟩, ⟨"bob", record⟩] none Timestamp.epoch
      let login := fun identity token => Operation.login identity "wonderland" fun _ => token
      let ops := [login "alice" "abc", .advance 2678400 0, login "bob" "def", login "alice" "xyz"]
      let c := (start.runAll ops).2
      let after := (c.perform (.logoutIdentity "alice")).2
      Operation.poison ∉ ops
        ∧ (c.perform (.logoutIdentity "alice")).1 = { result := .ok (.ended 2) }
        ∧ (standing (start.history ops) "alice").encard = 2
        ∧ c.owner "abc" = .ok none
        ∧ after.owner "def" = .ok (some "bob") := by
  obtain ⟨record, -, hverify⟩ := Password.exists_record (Vector.replicate 16 0)
    (show "wonderland".utf8ByteSize < Password.passwordLimit by decide)
  refine ⟨record, ?_⟩
  intro start login ops c after
  let state := fun sessions now => (⟨{ start.store with sessions }, now⟩ : Clocked)
  have hlogin : ∀ sessions now identity token, start.store.users.get? identity = some record →
      sessions.get? token = none →
      ((state sessions now).perform (login identity token)).2
        = state (sessions.insert token ⟨identity, expiryOf now⟩) now := by
    intro sessions now identity token huser hfree
    have hcheck : Store.check (start.store.users.get? identity) none "wonderland" = .ok () :=
      Store.check_eq_ok_iff.mpr ⟨record, huser, hverify⟩
    have hgranted : (state sessions now).store.login now (fun _ => token) identity "wonderland"
        = _ := Store.login_of_free (s := (state sessions now).store) (k := 0) rfl hcheck (by decide)
      (fun htaken => htaken hfree) (by simp) now
    simp only [login, Clocked.perform, state] at hgranted ⊢
    rw [hgranted, plusDays_lifetimeDays]
  have hops : Operation.poison ∉ ops := by simp [ops, login]
  have halice : start.store.users.get? "alice" = some record := by
    simp [start, Clocked.start, Store.new, Table.ofList, Table.get?_insert]
  have hbob : start.store.users.get? "bob" = some record := by
    simp [start, Clocked.start, Store.new, Table.ofList, Table.get?_insert]
  let later := Timestamp.epoch.advance 2678400 0
  let one := Table.empty.insert "abc" (Session.mk "alice" (expiryOf Timestamp.epoch))
  let two := one.insert "def" ⟨"bob", expiryOf later⟩
  let three := two.insert "xyz" ⟨"alice", expiryOf later⟩
  have hone : (start.perform (login "alice" "abc")).2 = state one Timestamp.epoch :=
    hlogin .empty Timestamp.epoch "alice" "abc" halice rfl
  have htwo : ((state one later).perform (login "bob" "def")).2 = state two later :=
    hlogin one later "bob" "def" hbob rfl
  have hthree : ((state two later).perform (login "alice" "xyz")).2 = state three later :=
    hlogin two later "alice" "xyz" halice rfl
  have hc : c = state three later := calc
    c = ((((start.perform (login "alice" "abc")).2.advance 2678400 0).perform
          (login "bob" "def")).2.perform (login "alice" "xyz")).2 := rfl
    _ = (((state one later).perform (login "bob" "def")).2.perform (login "alice" "xyz")).2 := by
      rw [hone]
      rfl
    _ = state three later := by rw [htwo, hthree]
  obtain ⟨count, hcount, hstanding, -, -, hothers, -⟩ :=
    logoutIdentity_runAll [⟨"alice", record⟩, ⟨"bob", record⟩] none Timestamp.epoch hops "alice"
  have htwice : (c.perform (.logoutIdentity "alice")).1 = { result := .ok (.ended 2) } := by
    rw [hc]
    rfl
  obtain rfl : count = 2 :=
    Answer.ended.inj (Except.ok.inj (congrArg Step.result (hcount.symm.trans htwice)))
  have howner : c.owner "def" = .ok (some "bob") := by
    rw [hc]
    rfl
  refine ⟨hops, htwice, hstanding, by rw [hc]; rfl, ?_⟩
  have hrecord : c.store.sessions.get? "def" = some ⟨"bob", expiryOf later⟩ := by
    rw [hc]
    rfl
  refine (hothers "def" (fun session hget => ?_) [] (by simp)).trans howner
  obtain rfl := Option.some.inj (hrecord.symm.trans hget)
  decide

end Sessions

end MenuHost
