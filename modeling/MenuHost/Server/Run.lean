import MenuHost.Server.Router

/-!
# Runs of the server

A server is asked by requests, and its store also by operations that no request
carries out: lookups, the clock, and what makes it unavailable. `perform` takes
one input of either kind, `runAll` a list. The draws come with the input, as do
those of the store's own runs.
-/

namespace MenuHost.Server

open MenuHost.Http MenuHost.Sessions

inductive Input where
  | operation (op : Operation)
  | request (draws : Nat → String) (r : Request)

inductive Output where
  | step (s : Step)
  | reply (r : Reply)

namespace App

def perform (s : App) : Input → Output × App
  | .operation op =>
    let (step, sessions) := s.sessions.perform op
    (.step step, { s with sessions })
  | .request draws r =>
    let (reply, s) := s.respond draws r
    (.reply reply, s)

def runAll (s : App) : List Input → List Output × App
  | [] => ([], s)
  | input :: rest =>
    let (first, s) := s.perform input
    let (others, s) := s.runAll rest
    (first :: others, s)

theorem runAll_cons (s : App) (input : Input) (rest : List Input) :
    s.runAll (input :: rest) =
      ((s.perform input).1 :: ((s.perform input).2.runAll rest).1,
        ((s.perform input).2.runAll rest).2) := rfl

end App

end MenuHost.Server
