import MenuHost.Menu.Logout

/-!
# The page

An in-memory page: its elements, the listeners on them, and the event loop that
runs the logout tasks which clicks have started.

A task posts when it is first run. The request is answered at once with the next
scripted reply, or it is held open until it is answered by hand; either way the
task ends with the one effect that its reply calls for.

Elements, listeners and tasks are numbered in the order in which they arise, so
no number is used twice.
-/

namespace MenuHost.Menu

structure Element where
  tag : String
  text : String
  listeners : List Nat
  children : List Nat
deriving Repr, DecidableEq, Inhabited

/-- What can be seen of an element: how many attached listeners it has, and the
same of its children. -/
inductive Tree where
  | node (tag text : String) (listeners : Nat) (children : List Tree)
deriving Repr, BEq, Inhabited

/-- What an effect comes from: the task of a click, or a logout that was called
directly. -/
inductive Origin where
  | task (id : Nat)
  | direct
deriving Repr, DecidableEq

/-- An effect with its origin. `held` marks a request that waits for its answer. -/
structure Event where
  origin : Origin
  effect : Effect
  held : Bool := false
deriving Repr, DecidableEq

/-- What happens beside the result of a step. -/
structure Activity where
  events : List Event := []
  log : List LogLine := []
deriving Repr, DecidableEq

namespace Activity

def none : Activity := {}

def logged (line : LogLine) : Activity := { log := [line] }

def append (a b : Activity) : Activity :=
  { events := a.events ++ b.events, log := a.log ++ b.log }

instance : Append Activity := ⟨append⟩

@[simp] theorem events_append (a b : Activity) : (a ++ b).events = a.events ++ b.events := rfl

end Activity

structure HeldRequest where
  task : Nat
  answered : Bool := false
deriving Repr, DecidableEq

structure Page where
  elements : List Element := []
  /-- The listeners that are attached. -/
  attached : List Nat := []
  listenerCount : Nat := 0
  /-- Scripted replies, the next one first. -/
  replies : List Reply := []
  /-- Whether requests are held open from now on. -/
  holding : Bool := false
  taskCount : Nat := 0
  /-- Tasks that have not been run, in the order of their clicks. -/
  fresh : List Nat := []
  /-- The requests held open so far. -/
  requests : List HeldRequest := []
  /-- Tasks whose answer has come, in the order of the answers. -/
  ready : List (Nat × Reply) := []

namespace Page

/-! ## The document -/

def createElement (p : Page) (tag text : String) (children : List Nat) : Nat × Page :=
  (p.elements.length,
    { p with elements := p.elements ++ [⟨tag, text, [], children⟩] })

/-- Attaches a new listener to an element and returns the listener's number. -/
def listen (p : Page) (element : Nat) : Nat × Page :=
  (p.listenerCount,
    { p with
      elements := p.elements.modify element fun e =>
        { e with listeners := e.listeners ++ [p.listenerCount] }
      attached := p.listenerCount :: p.attached
      listenerCount := p.listenerCount + 1 })

/-- Detaches a listener for good. -/
def detach (p : Page) (listener : Nat) : Page :=
  { p with attached := p.attached.filter (· ≠ listener) }

def listenersOn (p : Page) (element : Nat) : List Nat :=
  ((p.elements[element]?.map Element.listeners).getD []).filter (p.attached.contains ·)

def childrenOf (p : Page) (element : Nat) : List Nat :=
  (p.elements[element]?.map Element.children).getD []

/-- What can be seen of an element, down to a depth. -/
def treeTo (p : Page) : Nat → Nat → Tree
  | 0, _ => .node "" "" 0 []
  | depth + 1, element =>
    match p.elements[element]? with
    | some e =>
      .node e.tag e.text (p.listenersOn element).length (e.children.map (p.treeTo depth))
    | none => .node "" "" 0 []

/-- What can be seen of an element. Children have smaller numbers than their
parents, so the depth of a tree is at most the number of its root. -/
def tree (p : Page) (element : Nat) : Tree :=
  p.treeTo (element + 1) element

/-! ## Tasks -/

/-- Starts a logout task for each attached listener of an element. -/
def click (p : Page) (element : Nat) : Page :=
  let n := (p.listenersOn element).length
  { p with
    fresh := p.fresh ++ (List.range n).map (p.taskCount + ·)
    taskCount := p.taskCount + n }

def clickTimes (p : Page) (element times : Nat) : Page :=
  times.repeat (·.click element) p

/-- What a logout does when its reply has come. -/
def finish (origin : Origin) (reply : Reply) : Activity :=
  let outcome := LogoutOutcome.ofReply reply
  { events := [{ origin, effect := outcome.effect }], log := [outcome.logLine] }

/-- What a logout does first. -/
def posted (origin : Origin) (held : Bool) : Activity :=
  { events := [{ origin, effect := .post logoutEndpoint, held }]
    log := [.trace ("posting to " ++ logoutEndpoint)] }

/-- The reply to a request for which none was scripted. -/
def unscripted : Reply := .error ⟨"no response scripted"⟩

def takeReply (p : Page) : Reply × Page :=
  match p.replies with
  | reply :: rest => (reply, { p with replies := rest })
  | [] => (unscripted, p)

/-- Runs a fresh task until it ends or waits. -/
def start (p : Page) (task : Nat) : Page × Activity :=
  if p.holding then
    ({ p with requests := p.requests ++ [{ task }] }, posted (.task task) true)
  else
    let (reply, p) := p.takeReply
    (p, posted (.task task) false ++ finish (.task task) reply)

def startAll (p : Page) : List Nat → Page × Activity
  | [] => (p, .none)
  | task :: rest =>
    let (p, first) := p.start task
    let (p, others) := p.startAll rest
    (p, first ++ others)

/-- Runs all tasks that can go on: first those whose answer has come, in the
order of the answers, then the fresh ones, in the order of their clicks. -/
def run (p : Page) : Page × Activity :=
  let resumed := p.ready.foldl (fun a (task, reply) => a ++ finish (.task task) reply) .none
  let (p, started) := { p with ready := [], fresh := [] }.startAll p.fresh
  (p, resumed ++ started)

/-- Answers a request that was held open, if there is one of that number and it
still waits. -/
def answer? (p : Page) (index : Nat) (reply : Reply) : Option Page :=
  match p.requests[index]? with
  | some { task, answered := false } =>
    some { p with
      requests := p.requests.set index { task, answered := true }
      ready := p.ready ++ [(task, reply)] }
  | _ => none

/-- Logs out at once, without a task. -/
def logout (p : Page) : LogoutOutcome × Page × Activity :=
  let (reply, p) := p.takeReply
  (LogoutOutcome.ofReply reply, p, posted .direct false ++ finish .direct reply)

end Page

end MenuHost.Menu
