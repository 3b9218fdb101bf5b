import MenuHost.Proofs.Server.Reachable
import MenuHost.Proofs.Server.Revocation

/-!
# Requests as sections under the lock

The handlers hold the lock of the store for a part of their work only.
Here a request is cut where the lock is given back: `Flight` says how far
it has come and what it remembers, and `Flight.next` carries out its next
section. A login reads the records to check against, checks the password
without the lock, and starts the session; logging out everywhere looks up
the owner of the token, and then takes back what the lookup found.

- Run without a break the sections are the handler (`next_next_next`), so
  nothing is lost by the cut.
- A `Pool` is any number of requests over one store. In each turn one of
  them carries out its next section, or the clock moves.
- `Sound` is what a request may rely on when it goes on: what it has read
  of users and decoy is still so, because no section changes them. With
  it every section is an operation of the store, or nothing
  (`state_next`), and so is every interleaving a run of operations
  (`Reached.run`).
-/

namespace MenuHost.Server

open MenuHost.Http MenuHost.Sessions MenuHost.Time

/-! ## Sections -/

/-- A request to one of the routes, with the tokens that it would draw. -/
structure Incoming where
  route : Route
  draws : Nat → String
  request : Request

/-- How far a request has come. -/
inductive Flight where
  | received (r : Incoming)
  /-- A login that has read the records to check against. -/
  | checking (draws : Nat → String) (form : LoginForm) (record decoy : Option String)
  /-- A login whose password was right. -/
  | granting (draws : Nat → String) (form : LoginForm)
  /-- Logging out everywhere, after the lookup of the owner. -/
  | ending (token : String) (owner : Option String)
  | answered (reply : Reply)

/-- The answer to a login, when the store has decided. -/
def loginReply (form : LoginForm) (login : Store.Login) : Reply :=
  match login.result with
  | .error e => sessionFailure e login.log login.drawn
  | .ok (token, expires) =>
    match cookie? token expires with
    | none => withCookie none "session cookie" "" login.log login.drawn
    | some value =>
      let log := login.log ++ [.trace ("user " ++ form.identity ++ " logged in")]
      withCookie (some value) "session cookie" "Login Successful" log login.drawn

theorem login_eq (c : Clocked) (draws : Nat → String) (form : LoginForm) :
    login c draws form =
      (loginReply form (c.store.login c.now draws form.identity form.password).1,
        { c with store := (c.store.login c.now draws form.identity form.password).2 }) := by
  unfold login
  generalize c.store.login c.now draws form.identity form.password = decided
  obtain ⟨⟨result, drawn, log⟩, store⟩ := decided
  cases result with
  | error e => rfl
  | ok granted =>
      obtain ⟨token, expires⟩ := granted
      simp only [loginReply]
      cases cookie? token expires <;> rfl

namespace Flight

def begin (c : Clocked) (r : Incoming) : Flight × Clocked :=
  match r.route with
  | .login =>
    match LoginForm.ofRequest r.request with
    | .error e => (answered { response := e.response }, c)
    | .ok form =>
      match c.store.records form.identity with
      | .error e => (answered (loginReply form (Store.refused e)), c)
      | .ok (record, decoy) => (checking r.draws form record decoy, c)
  | .logout =>
    let (reply, c) := logout c r.request.headers
    (answered reply, c)
  | .logoutAll =>
    match sessionOf? r.request.headers with
    | none => (answered (logoutAll c r.request.headers).1, c)
    | some token =>
      match c.owner token with
      | .error e => (answered (sessionFailure e), c)
      | .ok owner => (ending token owner, c)

/-- Carries out the next section of a request. -/
def next (c : Clocked) : Flight → Flight × Clocked
  | received r => begin c r
  | checking draws form record decoy =>
    match Store.check record decoy form.password with
    | .error e =>
      (answered (loginReply form (Store.refused .loginFailed
        [.trace ("login rejected for " ++ form.identity ++ ": " ++ e.message)])), c)
    | .ok () => (granting draws form, c)
  | granting draws form =>
    let (login, store) := c.store.grant c.now draws form.identity
    (answered (loginReply form login), { c with store })
  | ending token owner =>
    let (reply, c) := endAll c token owner
    (answered reply, c)
  | answered reply => (answered reply, c)

/-- A request whose sections follow each other at once is answered as by its
handler. -/
theorem next_next_next (c : Clocked) (r : Incoming) :
    let first := next c (received r)
    let second := next first.2 first.1
    next second.2 second.1 = (answered (App.respondRoute c r.route r.draws r.request).1,
      (App.respondRoute c r.route r.draws r.request).2) := by
  obtain ⟨route, draws, request⟩ := r
  cases route with
  | login =>
      cases hform : LoginForm.ofRequest request with
      | error e => simp [next, begin, App.respondRoute, hform]
      | ok form =>
          cases hrecords : c.store.records form.identity with
          | error e => simp [next, begin, App.respondRoute, hform, hrecords, login_eq, Store.login]
          | ok found =>
              obtain ⟨record, decoy⟩ := found
              cases hcheck : Store.check record decoy form.password <;>
                simp [next, begin, App.respondRoute, hform, hrecords, hcheck, login_eq, Store.login]
  | logout => simp [next, begin, App.respondRoute]
  | logoutAll =>
      cases hfound : sessionOf? request.headers with
      | none => simp [next, begin, App.respondRoute, logoutAll, hfound]
      | some token =>
          cases howner : c.owner token <;>
            simp [next, begin, App.respondRoute, logoutAll, hfound, howner]

/-! ## What a request relies on -/

/-- What a request has read of a store is still so. -/
def Sound (s : Store) : Flight → Prop
  | received _ => True
  | checking _ form record decoy => s.records form.identity = .ok (record, decoy)
  | granting _ form => s.available = true
    ∧ Store.check (s.users.get? form.identity) s.decoy form.password = .ok ()
  | ending _ _ => True
  | answered _ => True

/-- A login whose password was right goes on as if it began only now. -/
theorem login_of_sound {c : Clocked} {draws : Nat → String} {form : LoginForm}
    (h : (granting draws form).Sound c.store) :
    c.store.login c.now draws form.identity form.password
      = c.store.grant c.now draws form.identity := by
  obtain ⟨hav, hcheck⟩ := h
  simp [Store.login, Store.records, hav, hcheck]

theorem next_granting {c : Clocked} {draws : Nat → String} {form : LoginForm}
    (h : (granting draws form).Sound c.store) :
    next c (granting draws form) = (answered (login c draws form).1, (login c draws form).2) := by
  rw [login_eq, login_of_sound h]
  rfl

/-- What a section reads is so when it is read. -/
theorem sound_next {c : Clocked} {f : Flight} (h : f.Sound c.store) :
    (f.next c).1.Sound c.store := by
  cases f with
  | received r =>
      obtain ⟨route, draws, request⟩ := r
      cases route with
      | login =>
          simp only [next, begin]
          split
          · trivial
          · split
            · trivial
            · next hrecords => exact hrecords
      | logout => trivial
      | logoutAll =>
          simp only [next, begin]
          split
          · trivial
          · split <;> trivial
  | checking draws form record decoy =>
      simp only [next]
      split
      · trivial
      · next hcheck =>
          -- the records were read from an available store, or there would be none
          have hrecords : c.store.records form.identity = .ok (record, decoy) := h
          unfold Store.records at hrecords
          split at hrecords
          · next hav =>
              obtain ⟨rfl, rfl⟩ := Prod.mk.inj (Except.ok.inj hrecords)
              exact ⟨hav, hcheck⟩
          · cases hrecords
  | granting draws form => trivial
  | ending token owner => trivial
  | answered reply => trivial

/-- Every section is an operation of the store, or nothing. -/
theorem state_next {c : Clocked} {f : Flight} (h : f.Sound c.store) :
    (f.next c).2 = c ∨ ∃ op, op ≠ .poison ∧ (f.next c).2 = (c.perform op).2 := by
  cases f with
  | received r =>
      obtain ⟨route, draws, request⟩ := r
      cases route with
      | login =>
          refine Or.inl ?_
          simp only [next, begin]
          split
          · rfl
          · split <;> rfl
      | logout =>
          rcases state_logout c request.headers with hsame | ⟨token, hstate⟩
          · exact Or.inl hsame
          · exact Or.inr ⟨.logout token, nofun, hstate⟩
      | logoutAll =>
          refine Or.inl ?_
          simp only [next, begin]
          split
          · rfl
          · split <;> rfl
  | checking draws form record decoy =>
      refine Or.inl ?_
      simp only [next]
      split <;> rfl
  | granting draws form =>
      rw [next_granting h]
      exact Or.inr ⟨.login form.identity form.password draws, nofun, state_login c draws form⟩
  | ending token owner =>
      rcases state_endAll c token owner with ⟨identity, hstate⟩ | hstate
      · exact Or.inr ⟨.logoutIdentity identity, nofun, hstate⟩
      · exact Or.inr ⟨.logout token, nofun, hstate⟩
  | answered reply => exact Or.inl rfl

end Flight

/-! ## Interleavings -/

/-- Requests on their way, over one store. -/
structure Pool where
  sessions : Clocked
  flights : List Flight

/-- What happens next: a request carries out its next section, or time passes. -/
inductive Turn where
  | request (i : Nat)
  | clock (secs nanos : Int)

namespace Pool

def start (c : Clocked) (requests : List Incoming) : Pool :=
  ⟨c, requests.map Flight.received⟩

def turn (p : Pool) : Turn → Pool
  | .request i =>
    match p.flights[i]? with
    | some f => ⟨(f.next p.sessions).2, p.flights.set i (f.next p.sessions).1⟩
    | none => p
  | .clock secs nanos => { p with sessions := p.sessions.advance secs nanos }

/-- An interleaving: one turn after the other. -/
def run (p : Pool) : List Turn → Pool
  | [] => p
  | t :: rest => (p.turn t).run rest

def recorded (p : Pool) (token : String) : Option Session :=
  p.sessions.store.sessions.get? token

theorem run_append (p : Pool) (turns more : List Turn) :
    p.run (turns ++ more) = (p.run turns).run more := by
  induction turns generalizing p with
  | nil => rfl
  | cons t rest ih => exact ih (p.turn t)

theorem turn_request {p : Pool} {i : Nat} {f : Flight} (h : p.flights[i]? = some f) :
    p.turn (.request i) = ⟨(f.next p.sessions).2, p.flights.set i (f.next p.sessions).1⟩ := by
  simp only [turn, h]

theorem flights_turn_request {p : Pool} {i : Nat} {f : Flight} (h : p.flights[i]? = some f) :
    (p.turn (.request i)).flights[i]? = some (f.next p.sessions).1 := by
  obtain ⟨hlt, -⟩ := List.getElem?_eq_some_iff.mp h
  rw [turn_request h, List.getElem?_set_self hlt]

/-- A turn leaves the other requests where they were. -/
theorem flights_turn {p : Pool} {t : Turn} {i : Nat} (h : t ≠ .request i) :
    (p.turn t).flights[i]? = p.flights[i]? := by
  cases t with
  | request j =>
      have hne : j ≠ i := fun heq => h (heq ▸ rfl)
      cases hf : p.flights[j]? with
      | none => simp only [turn, hf]
      | some f => rw [turn_request hf, List.getElem?_set_ne hne]
  | clock secs nanos => rfl

theorem flights_run {p : Pool} {turns : List Turn} {i : Nat} (h : .request i ∉ turns) :
    (p.run turns).flights[i]? = p.flights[i]? := by
  induction turns generalizing p with
  | nil => rfl
  | cons t rest ih =>
      rw [List.mem_cons, not_or] at h
      rw [run, ih h.2, flights_turn (Ne.symm h.1)]

end Pool

/-! ## What an interleaving leads to -/

/-- What every interleaving over a store keeps: its sessions are those of a run
of operations that leaves the store available, and whatever its requests have
read of users and decoy was already so at the beginning. -/
structure Reached (c : Clocked) (p : Pool) : Prop where
  ops : ∃ ops, Operation.poison ∉ ops ∧ p.sessions = (c.runAll ops).2
  sound : ∀ f ∈ p.flights, f.Sound c.store

namespace Reached

variable {c : Clocked} {p : Pool}

theorem start (c : Clocked) (requests : List Incoming) : Reached c (.start c requests) := by
  refine ⟨⟨[], by simp, rfl⟩, fun f hf => ?_⟩
  obtain ⟨r, -, rfl⟩ := List.mem_map.mp hf
  trivial

/-- Users, decoy and availability are those of the beginning. -/
theorem frame (h : Reached c p) : p.sessions.store.users = c.store.users
    ∧ p.sessions.store.decoy = c.store.decoy
    ∧ p.sessions.store.available = c.store.available := by
  obtain ⟨ops, hops, hsessions⟩ := h.ops
  rw [hsessions]
  refine ⟨c.users_runAll ops, c.decoy_runAll ops, Bool.eq_iff_iff.mpr ?_⟩
  rw [Clocked.available_runAll, and_iff_left hops]

theorem sound_iff (h : Reached c p) (f : Flight) : f.Sound p.sessions.store ↔ f.Sound c.store := by
  obtain ⟨husers, hdecoy, hav⟩ := h.frame
  cases f <;> simp [Flight.Sound, Store.records, husers, hdecoy, hav]

/-- A request finds what it has read of users and decoy unchanged. -/
theorem sound_of_getElem? (h : Reached c p) {i : Nat} {f : Flight} (hf : p.flights[i]? = some f) :
    f.Sound p.sessions.store :=
  (h.sound_iff f).mpr (h.sound f (List.mem_of_getElem? hf))

theorem turn (h : Reached c p) (t : Turn) : Reached c (p.turn t) := by
  have hmore : ∀ {after : Pool} {op : Operation}, op ≠ .poison →
      after.sessions = (p.sessions.perform op).2 →
      ∃ ops, Operation.poison ∉ ops ∧ after.sessions = (c.runAll ops).2 := by
    intro after op hop hafter
    obtain ⟨ops, hops, hsessions⟩ := h.ops
    refine ⟨ops ++ [op], by simp [hops, Ne.symm hop], ?_⟩
    rw [Clocked.runAll_append, ← hsessions, hafter]
    rfl
  cases t with
  | clock secs nanos =>
      have hclock : Operation.advance secs nanos ≠ .poison := nofun
      exact ⟨hmore hclock rfl, h.sound⟩
  | request i =>
      cases hf : p.flights[i]? with
      | none =>
          have hsame : p.turn (.request i) = p := by simp only [Pool.turn, hf]
          rw [hsame]
          exact h
      | some f =>
          have hsound := h.sound_of_getElem? hf
          rw [Pool.turn_request hf]
          constructor
          · rcases Flight.state_next hsound with hsame | ⟨op, hop, hstate⟩
            · obtain ⟨ops, hops, hsessions⟩ := h.ops
              exact ⟨ops, hops, hsame.trans hsessions⟩
            · exact hmore hop hstate
          · intro g hg
            rcases List.mem_or_eq_of_mem_set hg with hg | rfl
            · exact h.sound g hg
            · exact (h.sound_iff _).mp (Flight.sound_next hsound)

theorem run (h : Reached c p) (turns : List Turn) : Reached c (p.run turns) := by
  induction turns generalizing p with
  | nil => exact h
  | cons t rest ih => exact ih (h.turn t)

end Reached

end MenuHost.Server
