import MenuHost.Proofs.Files.Confinement
import MenuHost.Server.Run

/-!
# What a server shows of its file system

Two servers with the same sessions, whose sites are alike, cannot be told
apart: by no request and no list of requests (`runAll_of_alike`). Sites are
alike if their trees have the same node at the root, and the same is opened in them
at a few paths beside it. So nothing is shown of any file that is not below the root,
nor at one of these paths.

The last exception is needed. Where the codings of a file are tried, a file
beside the root is served as if it were below it (`Site.find_sibling`), and for some
targets the directory that the root is in, of which the size and the time are
shown (`Site.find_stem`).
-/

namespace MenuHost.Server

open MenuHost.Http MenuHost.Sessions MenuHost.Files

/-- Two servers have the same sessions, and sites that are alike. -/
structure App.Alike (s s' : App) : Prop where
  sessions : s.sessions = s'.sessions
  site : Site.Alike s.site s'.site

/-! ## One input -/

theorem serveFile_of_alike {site site' : Site} (h : Site.Alike site site') (r : Request) :
    serveFile site r = serveFile site' r := by
  simp only [serveFile, Site.find_of_alike h]

namespace App

variable {s s' : App}

theorem answer_of_alike (h : s.Alike s') (draws : Nat → String) (r : Request) :
    (s.answer draws r).1 = (s'.answer draws r).1
      ∧ (s.answer draws r).2.Alike (s'.answer draws r).2 := by
  obtain ⟨sessions, site⟩ := s
  obtain ⟨sessions', site'⟩ := s'
  obtain ⟨hsessions, hsite⟩ := h
  obtain rfl : sessions = sessions' := hsessions
  unfold answer
  split
  · exact ⟨serveFile_of_alike hsite r, rfl, hsite⟩
  · split
    · exact ⟨rfl, rfl, hsite⟩
    · exact ⟨rfl, rfl, hsite⟩

theorem respond_of_alike (h : s.Alike s') (draws : Nat → String) (r : Request) :
    (s.respond draws r).1 = (s'.respond draws r).1
      ∧ (s.respond draws r).2.Alike (s'.respond draws r).2 := by
  obtain ⟨hreply, hkept⟩ := answer_of_alike h draws r
  exact ⟨congrArg (fun reply : Reply =>
    { reply with response := compress r.headers reply.response }) hreply, hkept⟩

theorem perform_of_alike (h : s.Alike s') (input : Input) :
    (s.perform input).1 = (s'.perform input).1
      ∧ (s.perform input).2.Alike (s'.perform input).2 := by
  cases input with
  | operation op =>
      refine ⟨?_, ?_, h.site⟩
      · show Output.step (s.sessions.perform op).1 = Output.step (s'.sessions.perform op).1
        rw [h.sessions]
      · show (s.sessions.perform op).2 = (s'.sessions.perform op).2
        rw [h.sessions]
  | request draws r =>
      obtain ⟨hreply, hkept⟩ := respond_of_alike h draws r
      exact ⟨congrArg Output.reply hreply, hkept⟩

/-! ## Any number of inputs -/

theorem runAll_of_alike (h : s.Alike s') (inputs : List Input) :
    (s.runAll inputs).1 = (s'.runAll inputs).1
      ∧ (s.runAll inputs).2.Alike (s'.runAll inputs).2 := by
  induction inputs generalizing s s' with
  | nil => exact ⟨rfl, h⟩
  | cons input rest ih =>
      obtain ⟨hfirst, hkept⟩ := perform_of_alike h input
      obtain ⟨hrest, hlast⟩ := ih hkept
      rw [runAll_cons, runAll_cons, hfirst, hrest]
      exact ⟨rfl, hlast⟩

end App

end MenuHost.Server
