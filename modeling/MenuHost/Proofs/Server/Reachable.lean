import MenuHost.Proofs.Server.Routes
import MenuHost.Proofs.Sessions.History
import MenuHost.Proofs.Sessions.Token
import MenuHost.Server.Run

/-!
# The states of a server

A server is reached from a new store by requests and by operations on the
store itself, which let time pass or make the store unavailable. To the
store a request is no more than a run of its operations
(`state_respond`), so a reachable server holds the store of a run
(`sessions_of_reachable`), and whatever is known of runs is known of
servers.

The draws of the generator are texts of tokens, so these are all that a
server records (`exists_bits_of_taken`).
-/

namespace MenuHost.Server

open MenuHost.Http MenuHost.Sessions MenuHost.Time

/-! ## Requests as operations -/

theorem state_login (c : Clocked) (draws : Nat → String) (form : LoginForm) :
    (login c draws form).2 = (c.perform (.login form.identity form.password draws)).2 := by
  simp only [login, Clocked.perform]
  split
  · rfl
  · split <;> rfl

theorem state_logout (c : Clocked) (headers : Headers) :
    (logout c headers).2 = c ∨ ∃ token, (logout c headers).2 = (c.perform (.logout token)).2 := by
  unfold logout
  split
  · exact Or.inl rfl
  · next token _ =>
      refine Or.inr ⟨token, ?_⟩
      simp only [Clocked.perform]
      split <;> simp_all

theorem state_endAll (c : Clocked) (token : String) (owner : Option String) :
    (∃ identity, (endAll c token owner).2 = (c.perform (.logoutIdentity identity)).2)
      ∨ (endAll c token owner).2 = (c.perform (.logout token)).2 := by
  unfold endAll
  cases owner with
  | some identity =>
      refine Or.inl ⟨identity, ?_⟩
      simp only [Clocked.perform]
      split <;> simp_all
  | none =>
      refine Or.inr ?_
      simp only [Clocked.perform]
      split <;> simp_all

/-- The operations that requests lead to. -/
inductive IsRequested (draws : Nat → String) : Operation → Prop where
  | login (identity password : String) : IsRequested draws (.login identity password draws)
  | logout (token : String) : IsRequested draws (.logout token)
  | logoutIdentity (identity : String) : IsRequested draws (.logoutIdentity identity)

/-- A handler carries out at most one operation. -/
theorem state_respondRoute (c : Clocked) (route : Route) (draws : Nat → String) (r : Request) :
    (App.respondRoute c route draws r).2 = c
      ∨ ∃ op, IsRequested draws op ∧ (App.respondRoute c route draws r).2 = (c.perform op).2 := by
  cases route with
  | login =>
      cases hform : LoginForm.ofRequest r with
      | error e => exact Or.inl (by rw [App.respondRoute, hform])
      | ok form =>
          refine Or.inr ⟨_, .login form.identity form.password, ?_⟩
          rw [App.respondRoute, hform]
          exact state_login c draws form
  | logout =>
      rcases state_logout c r.headers with h | ⟨token, h⟩
      · exact Or.inl h
      · exact Or.inr ⟨_, .logout token, h⟩
  | logoutAll =>
      show (logoutAll c r.headers).2 = c
        ∨ ∃ op, IsRequested draws op ∧ (logoutAll c r.headers).2 = (c.perform op).2
      unfold logoutAll
      split
      · exact Or.inl rfl
      · next token _ =>
          split
          · exact Or.inl rfl
          · next owner _ =>
              rcases state_endAll c token owner with ⟨identity, h⟩ | h
              · exact Or.inr ⟨_, .logoutIdentity identity, h⟩
              · exact Or.inr ⟨_, .logout token, h⟩

/-- **Requests are runs.** A request changes a server by a run of operations
on its store, and in nothing else. -/
theorem state_respond (s : App) (draws : Nat → String) (r : Request) :
    ∃ ops, (∀ op ∈ ops, IsRequested draws op)
      ∧ (s.respond draws r).2 = { s with sessions := (s.sessions.runAll ops).2 } := by
  cases hroute : Route.ofPath? r.uri.path with
  | none => exact ⟨[], by simp, by simp [App.respond, App.answer, hroute, Clocked.runAll]⟩
  | some route =>
      by_cases hpost : r.method = Method.post
      · have hkept := (respond_of_route (s := s) hpost hroute draws).2
        rcases state_respondRoute s.sessions route draws r with h | ⟨op, hop, h⟩
        · exact ⟨[], by simp, hkept.trans (congrArg (App.mk · s.site) h)⟩
        · refine ⟨[op], fun other hmem => ?_, hkept.trans (congrArg (App.mk · s.site) h)⟩
          obtain rfl := List.mem_singleton.mp hmem
          exact hop
      · exact ⟨[], by simp, by simp [App.respond, App.answer, hroute, hpost, Clocked.runAll]⟩

/-- A run of a server is, to its store, a run of operations. -/
theorem state_runAll (s : App) (inputs : List Input) :
    ∃ ops, (s.runAll inputs).2 = { s with sessions := (s.sessions.runAll ops).2 } := by
  induction inputs generalizing s with
  | nil => exact ⟨[], rfl⟩
  | cons input rest ih =>
      obtain ⟨ops, hfirst⟩ : ∃ ops, (s.perform input).2
          = { s with sessions := (s.sessions.runAll ops).2 } := by
        cases input with
        | operation op => exact ⟨[op], rfl⟩
        | request draws r =>
            obtain ⟨ops, -, hstate⟩ := state_respond s draws r
            exact ⟨ops, hstate⟩
      obtain ⟨more, hrest⟩ := ih (s.perform input).2
      refine ⟨ops ++ more, ?_⟩
      rw [hfirst] at hrest
      rw [App.runAll_cons, hfirst, hrest, Clocked.runAll_append]

/-! ## Reachable servers -/

/-- An operation with draws of the generator. -/
def IsDrawn (op : Operation) : Prop :=
  ∀ identity password draws, op = .login identity password draws →
    ∀ k, ∃ bits, draws k = tokenText bits

theorem isDrawn_of_isRequested {bits : Nat → TokenBits} {op : Operation}
    (h : IsRequested (fun k => tokenText (bits k)) op) : IsDrawn op := by
  intro identity password draws hop k
  cases h with
  | login => cases hop; exact ⟨bits k, rfl⟩
  | logout => cases hop
  | logoutIdentity => cases hop

/-- The servers that requests and operations on the store lead to. -/
inductive Reachable : App → Prop where
  | start (users : List User) (decoy : Option String) (now : Timestamp) (site : Files.Site) :
      Reachable ⟨.start users decoy now, site⟩
  | respond {s : App} (h : Reachable s) (bits : Nat → TokenBits) (r : Request) :
      Reachable (s.respond (fun k => tokenText (bits k)) r).2
  | perform {s : App} (h : Reachable s) {op : Operation} (hop : IsDrawn op) :
      Reachable { s with sessions := (s.sessions.perform op).2 }

/-- A reachable server holds the store of a run. -/
theorem sessions_of_reachable {s : App} (h : Reachable s) :
    ∃ users decoy now ops, (∀ op ∈ ops, IsDrawn op)
      ∧ s.sessions = ((Clocked.start users decoy now).runAll ops).2 := by
  induction h with
  | start users decoy now site => exact ⟨users, decoy, now, [], by simp, rfl⟩
  | respond _ bits r ih =>
      rename_i s _
      obtain ⟨users, decoy, now, ops, hops, hsessions⟩ := ih
      obtain ⟨more, hmore, hstate⟩ := state_respond s (fun k => tokenText (bits k)) r
      refine ⟨users, decoy, now, ops ++ more, fun op hop => ?_, ?_⟩
      · rcases List.mem_append.mp hop with hop | hop
        · exact hops op hop
        · exact isDrawn_of_isRequested (hmore op hop)
      · rw [hstate, Clocked.runAll_append, ← hsessions]
  | perform _ hop ih =>
      rename_i op
      obtain ⟨users, decoy, now, ops, hops, hsessions⟩ := ih
      refine ⟨users, decoy, now, ops ++ [op], fun other hother => ?_, ?_⟩
      · rcases List.mem_append.mp hother with hother | hother
        · exact hops other hother
        · obtain rfl := List.mem_singleton.mp hother
          exact hop
      · rw [Clocked.runAll_append, ← hsessions]
        rfl

/-- A reachable server records texts of tokens only. -/
theorem exists_bits_of_taken {s : App} (h : Reachable s) {token : String}
    (htaken : s.sessions.store.Taken token) : ∃ bits, token = tokenText bits := by
  obtain ⟨users, decoy, now, ops, hops, hsessions⟩ := sessions_of_reachable h
  rw [hsessions] at htaken
  rcases Clocked.taken_runAll htaken with hstart | ⟨identity, password, draws, hmem, k, rfl⟩
  · exact absurd hstart (Store.not_taken_new users decoy token)
  · exact hops _ hmem identity password draws rfl k

end MenuHost.Server
