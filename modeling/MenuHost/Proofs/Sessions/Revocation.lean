import MenuHost.Proofs.Sessions.Operations

/-!
# What a store takes back

Logging out removes records and does nothing else. `Drops` says so once
for both ways: exactly the records of which `gone` holds are missing
afterwards, and users, decoy, availability and clock are as they were.
It fixes the state afterwards completely, so taking back the same
records a second time changes nothing (`Drops.again`).
-/

namespace MenuHost.Sessions

/-- Of the records of `c` exactly those of which `gone` holds are missing in
`after`, and everything else is the same. -/
structure Drops (c : Clocked) (gone : String → Session → Prop) (after : Clocked) : Prop where
  records : ∀ token session, after.store.sessions.get? token = some session ↔
    c.store.sessions.get? token = some session ∧ ¬gone token session
  users : after.store.users = c.store.users
  decoy : after.store.decoy = c.store.decoy
  available : after.store.available = c.store.available
  now : after.now = c.now

namespace Drops

variable {c after : Clocked} {gone : String → Session → Prop}

theorem nothing (c : Clocked) (h : ∀ token session, ¬gone token session) : Drops c gone c :=
  ⟨fun token session => by simp [h], rfl, rfl, rfl, rfl⟩

theorem erase (c : Clocked) (token : String) :
    Drops c (fun t _ => t = token)
      { c with store := { c.store with sessions := c.store.sessions.erase token } } := by
  refine ⟨fun t session => ?_, rfl, rfl, rfl, rfl⟩
  by_cases ht : t = token <;> simp [Table.get?_erase, ht]

theorem filter (c : Clocked) (identity : String) :
    Drops c (fun _ session => session.identity = identity)
      { c with store := { c.store with
          sessions := c.store.sessions.filter fun _ session => session.identity ≠ identity } } :=
  ⟨fun t session => by simp [Table.get?_filter, Option.filter_eq_some_iff], rfl, rfl, rfl, rfl⟩

theorem congr {gone' : String → Session → Prop} (h : Drops c gone after)
    (hgone : ∀ token session, gone token session ↔ gone' token session) : Drops c gone' after :=
  { h with records := fun token session => by rw [h.records, hgone] }

theorem get?_eq_none (h : Drops c gone after) {token : String} {session : Session}
    (hget : c.store.sessions.get? token = some session) (hgone : gone token session) :
    after.store.sessions.get? token = none := by
  refine Option.eq_none_iff_forall_ne_some.mpr fun kept hkept => ?_
  obtain ⟨hrecorded, hnot⟩ := (h.records token kept).mp hkept
  obtain rfl : kept = session := Option.some.inj (hrecorded.symm.trans hget)
  exact hnot hgone

/-- Nobody owns a token whose record is gone. -/
theorem owner_eq_none (h : Drops c gone after) (hav : c.store.available = true) {token : String}
    (hgone : ∀ session, c.store.sessions.get? token = some session → gone token session) :
    after.owner token = .ok none := by
  refine Store.identity_eq_ok_none_iff.mpr ⟨h.available.trans hav, fun session hget => ?_⟩
  obtain ⟨hrecorded, hnot⟩ := (h.records token session).mp hget
  exact absurd (hgone session hrecorded) hnot

/-- Records that are gone cannot go once more. -/
theorem again {later : Clocked} (h : Drops c gone after) (h' : Drops after gone later) :
    later = after := by
  have hsessions : later.store.sessions = after.store.sessions :=
    Table.ext fun token => Option.ext fun session => by
      rw [h'.records, h.records, and_assoc, and_self_iff]
  obtain ⟨⟨users, decoy, sessions, available⟩, now⟩ := later
  obtain ⟨-, rfl, rfl, rfl, rfl⟩ := h'
  obtain rfl : sessions = after.store.sessions := hsessions
  rfl

end Drops

end MenuHost.Sessions
