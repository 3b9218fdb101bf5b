import Mathlib.Data.List.Nodup
import MenuHost.Proofs.Sessions.Credentials
import MenuHost.Proofs.Sessions.Token

/-!
# The store does not read tokens

To the store a token is a name: it is compared with others, and nothing
else depends on how it is spelled. So two stores that differ in the names
of their sessions only (`Store.Renamed`) answer alike, if what they are
asked is renamed in the same way (`Clocked.perform_renamed`).

Tables keep their entries in the order of the keys, and a renaming may
change that order. `TableRenamed` therefore speaks of lookups; the sizes
agree because the keys are renamed one by one (`TableRenamed.size`).
-/

namespace MenuHost.Sessions

open MenuHost.Time

/-! ## Renamings -/

/-- A map of token texts to token texts that keeps different ones apart. -/
structure Renaming where
  rename : String → String
  isTokenText {token : String} : IsTokenText token → IsTokenText (rename token)
  injective {token other : String} : IsTokenText token → IsTokenText other →
    rename token = rename other → token = other

instance : CoeFun Renaming fun _ => String → String := ⟨Renaming.rename⟩

variable {α : Type} {ρ : Renaming}

/-! ## Tables -/

/-- The second table has what the first has, under the renamed keys. -/
structure TableRenamed (ρ : Renaming) (t t' : Table α) : Prop where
  lookup : ∀ {token}, IsTokenText token → t'.get? (ρ token) = t.get? token
  keys : ∀ {token value}, t.get? token = some value → IsTokenText token
  image : ∀ {name value}, t'.get? name = some value → ∃ token, IsTokenText token ∧ ρ token = name

namespace TableRenamed

theorem empty : TableRenamed ρ (Table.empty : Table α) Table.empty :=
  ⟨fun _ => rfl, nofun, nofun⟩

variable {t t' : Table α} {token : String}

theorem insert (h : TableRenamed ρ t t') (htoken : IsTokenText token) (value : α) :
    TableRenamed ρ (t.insert token value) (t'.insert (ρ token) value) := by
  refine ⟨fun {other} hother => ?_, fun {other _} hget => ?_, fun {name _} hget => ?_⟩
  · have hsame : ρ other = ρ token ↔ other = token :=
      ⟨ρ.injective hother htoken, congrArg ρ⟩
    rw [Table.get?_insert, Table.get?_insert, h.lookup hother]
    simp only [hsame]
  · by_cases hother : other = token
    · exact hother ▸ htoken
    · rw [Table.get?_insert, if_neg hother] at hget
      exact h.keys hget
  · by_cases hname : name = ρ token
    · exact ⟨token, htoken, hname.symm⟩
    · rw [Table.get?_insert, if_neg hname] at hget
      exact h.image hget

theorem filter (h : TableRenamed ρ t t') (p : α → Bool) :
    TableRenamed ρ (t.filter fun _ => p) (t'.filter fun _ => p) := by
  refine ⟨fun hother => ?_, fun hget => ?_, fun hget => ?_⟩
  · rw [Table.get?_filter, Table.get?_filter, h.lookup hother]
  · rw [Table.get?_filter] at hget
    exact h.keys (Option.filter_eq_some_iff.mp hget).1
  · rw [Table.get?_filter] at hget
    exact h.image (Option.filter_eq_some_iff.mp hget).1

theorem erase (h : TableRenamed ρ t t') (htoken : IsTokenText token) :
    TableRenamed ρ (t.erase token) (t'.erase (ρ token)) := by
  refine ⟨fun {other} hother => ?_, fun {other _} hget => ?_, fun {name _} hget => ?_⟩
  · have hsame : ρ other = ρ token ↔ other = token :=
      ⟨ρ.injective hother htoken, congrArg ρ⟩
    rw [Table.get?_erase, Table.get?_erase, h.lookup hother]
    simp only [hsame]
  · rw [Table.get?_erase] at hget
    split at hget
    · cases hget
    · exact h.keys hget
  · rw [Table.get?_erase] at hget
    split at hget
    · cases hget
    · exact h.image hget

theorem mem_keys (h : TableRenamed ρ t t') {name : String} :
    name ∈ t'.keys ↔ name ∈ t.keys.map ρ := by
  rw [List.mem_map]
  constructor
  · intro hname
    obtain ⟨value, hget⟩ := Table.mem_keys_iff.mp hname
    obtain ⟨token, htoken, rfl⟩ := h.image hget
    rw [h.lookup htoken] at hget
    exact ⟨token, Table.mem_keys_iff.mpr ⟨value, hget⟩, rfl⟩
  · rintro ⟨token, hmem, rfl⟩
    obtain ⟨value, hget⟩ := Table.mem_keys_iff.mp hmem
    exact Table.mem_keys_iff.mpr ⟨value, (h.lookup (h.keys hget)).trans hget⟩

theorem size (h : TableRenamed ρ t t') : t'.size = t.size := by
  have hrenamed : (t.keys.map ρ).Nodup := by
    refine List.Nodup.map_on (fun token hmem other hmem' heq => ?_) t.nodup_keys
    obtain ⟨value, hget⟩ := Table.mem_keys_iff.mp hmem
    obtain ⟨value', hget'⟩ := Table.mem_keys_iff.mp hmem'
    exact ρ.injective (h.keys hget) (h.keys hget') heq
  have hperm : t'.keys.Perm (t.keys.map ρ) :=
    (List.perm_ext_iff_of_nodup t'.nodup_keys hrenamed).mpr fun _ => h.mem_keys
  simpa [Table.keys, Table.size] using hperm.length_eq

end TableRenamed

/-! ## Stores -/

namespace Store

/-- Two stores that differ in the names of their sessions, and perhaps in decoys
that nobody can tell apart. -/
structure Renamed (ρ : Renaming) (s s' : Store) : Prop where
  users : s'.users = s.users
  decoy : ∀ password, check none s'.decoy password = check none s.decoy password
  sessions : TableRenamed ρ s.sessions s'.sessions
  available : s'.available = s.available

/-- Two new stores, whatever passwords their decoys were made of. -/
theorem renamed_new (users : List User) {decoy decoy' : Option String}
    (hdecoy : ∀ stored ∈ decoy, Password.IsRecord stored)
    (hdecoy' : ∀ stored ∈ decoy', Password.IsRecord stored) :
    Renamed ρ (new users decoy) (new users decoy') := by
  refine ⟨rfl, fun password => ?_, .empty, rfl⟩
  have hnobody : ∀ decoy, check none decoy password ≠ .ok () := fun decoy => by
    simp [check_eq_ok_iff]
  exact (check_of_isRecord (by simp) hdecoy' (hnobody _)).trans
    (check_of_isRecord (by simp) hdecoy (hnobody _)).symm

def Login.rename (ρ : Renaming) (l : Login) : Login :=
  { l with result := l.result.map fun (token, expires) => (ρ token, expires) }

/-- Two results without a token are alike: the same error, or the same value with
stores that differ in names. -/
def Alike (ρ : Renaming) {β : Type} (a a' : Except SessionError (β × Store)) : Prop :=
  (∃ e, a = .error e ∧ a' = .error e)
    ∨ ∃ value kept kept', a = .ok (value, kept) ∧ a' = .ok (value, kept') ∧ Renamed ρ kept kept'

namespace Renamed

variable {s s' : Store} {token : String} {draws : Nat → String}

theorem check (h : Renamed ρ s s') (identity password : String) :
    Store.check (s'.users.get? identity) s'.decoy password =
      Store.check (s.users.get? identity) s.decoy password := by
  rw [h.users]
  cases s.users.get? identity with
  | none => exact h.decoy password
  | some record => rfl

theorem taken (h : Renamed ρ s s') (htoken : IsTokenText token) :
    s'.Taken (ρ token) ↔ s.Taken token := by
  rw [Taken, h.sessions.lookup htoken, Taken]

theorem login (h : Renamed ρ s s') (hdraws : ∀ k, IsTokenText (draws k)) (now : Timestamp)
    (identity password : String) :
    (s'.login now (fun k => ρ (draws k)) identity password).1
        = (s.login now draws identity password).1.rename ρ
      ∧ Renamed ρ (s.login now draws identity password).2
        (s'.login now (fun k => ρ (draws k)) identity password).2 := by
  have hcheck := h.check identity password
  rcases s.login_cases now draws identity password with
    ⟨hdown, hl⟩ | ⟨hav, e, hno, hl⟩ | ⟨hav, hyes, hold, hl⟩ | ⟨hav, hyes, k, hk, hfree, hold, hl⟩
  · rw [hl, login_of_unavailable (h.available.trans hdown)]
    exact ⟨rfl, h⟩
  · rw [hl, login_of_error (h.available.trans hav) (hcheck.trans hno)]
    exact ⟨rfl, h⟩
  · have hold' : ∀ k < maxDraws, s'.Taken (ρ (draws k)) := fun k hk =>
      (h.taken (hdraws k)).mpr (hold k hk)
    rw [hl, login_of_taken (h.available.trans hav) (hcheck.trans hyes) hold']
    exact ⟨rfl, h⟩
  · have hfree' : ¬s'.Taken (ρ (draws k)) := mt (h.taken (hdraws k)).mp hfree
    have hold' : ∀ j < k, s'.Taken (ρ (draws j)) := fun j hj =>
      (h.taken (hdraws j)).mpr (hold j hj)
    rw [hl, login_of_free (h.available.trans hav) (hcheck.trans hyes) hk hfree' hold']
    exact ⟨rfl, h.users, h.decoy, h.sessions.insert (hdraws k) _, h.available⟩

theorem logout (h : Renamed ρ s s') (htoken : IsTokenText token) :
    Alike ρ (s.logout token) (s'.logout (ρ token)) := by
  simp only [Store.logout, h.available, h.sessions.lookup htoken]
  split
  · exact Or.inr ⟨_, _, _, rfl, rfl, h.users, h.decoy, h.sessions.erase htoken, rfl⟩
  · exact Or.inl ⟨_, rfl, rfl⟩

theorem logoutIdentity (h : Renamed ρ s s') (identity : String) :
    Alike ρ (s.logoutIdentity identity) (s'.logoutIdentity identity) := by
  have hkept := h.sessions.filter fun session => session.identity ≠ identity
  simp only [Store.logoutIdentity, h.available, h.sessions.size, hkept.size]
  split
  · exact Or.inr ⟨_, _, _, rfl, rfl, h.users, h.decoy, hkept, rfl⟩
  · exact Or.inl ⟨_, rfl, rfl⟩

theorem identity (h : Renamed ρ s s') (htoken : IsTokenText token) (now : Timestamp) :
    s'.identity now (ρ token) = s.identity now token := by
  rw [Store.identity, Store.identity, h.available, h.sessions.lookup htoken]

end Renamed

/-- A login returns a token that it drew. -/
theorem isTokenText_of_login {s : Store} {draws : Nat → String} {now : Timestamp}
    {identity password token : String} {expires : Timestamp}
    (hdraws : ∀ k, IsTokenText (draws k))
    (h : (s.login now draws identity password).1.result = .ok (token, expires)) :
    IsTokenText token := by
  rcases s.login_failed_or_started now draws identity password with ⟨e, herror, -⟩ | ⟨k, hl⟩
  · rw [herror] at h
    cases h
  · rw [hl] at h
    obtain ⟨rfl, -⟩ := Prod.mk.inj (Except.ok.inj h)
    exact hdraws k

end Store

/-! ## Operations -/

def Operation.rename (ρ : Renaming) : Operation → Operation
  | .login name password draws => .login name password fun k => ρ (draws k)
  | .logout token => .logout (ρ token)
  | .identity token => .identity (ρ token)
  | op => op

/-- Whatever the operation draws or names is the text of a token. -/
def Operation.OverTokens : Operation → Prop
  | .login _ _ draws => ∀ k, IsTokenText (draws k)
  | .logout token | .identity token => IsTokenText token
  | _ => True

def Answer.rename (ρ : Renaming) : Answer → Answer
  | .started token expires => .started (ρ token) expires
  | answer => answer

/-- What an operation returned, with the token renamed; draws and log stay. -/
def Step.rename (ρ : Renaming) (s : Step) : Step :=
  { s with result := s.result.map (Answer.rename ρ) }

namespace Clocked

/-- The same clock, and stores that differ in names. -/
structure Renamed (ρ : Renaming) (c c' : Clocked) : Prop where
  store : c.store.Renamed ρ c'.store
  now : c'.now = c.now

/-- **Opaque tokens.** An operation on renamed tokens does the same, with its own
token renamed. -/
theorem perform_renamed {c c' : Clocked} {op : Operation} (h : Renamed ρ c c')
    (hop : op.OverTokens) :
    (c'.perform (op.rename ρ)).1 = (c.perform op).1.rename ρ
      ∧ Renamed ρ (c.perform op).2 (c'.perform (op.rename ρ)).2 := by
  obtain ⟨hstore, hnow⟩ := h
  cases op with
  | login identity password draws =>
      obtain ⟨hlogin, hkept⟩ := hstore.login hop c.now identity password
      simp only [Operation.rename, perform, hnow, hlogin]
      refine ⟨?_, hkept, rfl⟩
      rw [Store.Login.rename, Step.rename]
      cases (c.store.login c.now draws identity password).1.result <;> rfl
  | logout token =>
      rcases hstore.logout hop with ⟨e, hl, hl'⟩ | ⟨log, kept, kept', hl, hl', hkept⟩
      · simp only [Operation.rename, perform, hl, hl']
        exact ⟨rfl, hstore, hnow⟩
      · simp only [Operation.rename, perform, hl, hl']
        exact ⟨rfl, hkept, hnow⟩
  | logoutIdentity identity =>
      rcases hstore.logoutIdentity identity with ⟨e, hl, hl'⟩ | ⟨count, kept, kept', hl, hl', hkept⟩
      · simp only [Operation.rename, perform, hl, hl']
        exact ⟨rfl, hstore, hnow⟩
      · simp only [Operation.rename, perform, hl, hl']
        exact ⟨rfl, hkept, hnow⟩
  | identity token =>
      simp only [Operation.rename, perform, owner, hnow, hstore.identity hop]
      refine ⟨?_, hstore, hnow⟩
      rw [Step.rename]
      cases c.store.identity c.now token <;> rfl
  | advance secs nanos =>
      simp only [Operation.rename, perform, advance, hnow]
      exact ⟨rfl, hstore, rfl⟩
  | poison =>
      simp only [Operation.rename, perform, poison, hstore.available]
      exact ⟨rfl, ⟨hstore.users, hstore.decoy, hstore.sessions, rfl⟩, hnow⟩

end Clocked

end MenuHost.Sessions
