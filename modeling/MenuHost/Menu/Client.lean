import MenuHost.Menu.Registry
import MenuHost.Menu.Widget

/-!
# The client

A page, a registry of widget factories, and the widgets that have been made,
kept under names. `Client.step` carries out one action: it returns the answer or
the reason for which the action cannot be done, what happened on the way, and
the client afterwards.

Widgets stay known under their names when they are dropped, because their
elements stay on the page.
-/

namespace MenuHost.Menu

/-- A widget under a name; `alive` until it is dropped. -/
structure KeptWidget where
  widget : Widget
  alive : Bool := true
deriving Repr, BEq, Inhabited

structure Client where
  page : Page := {}
  registry : Registry Factory := .empty
  widgets : Table KeptWidget := .empty
  /-- All that has happened on the page. -/
  history : List Event := []

/-- Where a click goes: the first child of a widget's root, or the root. -/
inductive Target where
  | control
  | root
deriving Repr, DecidableEq

/-- What can be asked of a client. -/
inductive Action where
  | respond (reply : Reply)
  | hold (on : Bool)
  | answer (request : Nat) (reply : Reply)
  | register
  | set (key : String) (factory : Factory)
  | get (key : String)
  | contains (key : String)
  | keys
  | create (key : String) (config : Json) (name : String)
  | createMenu (config : Json) (name : String)
  | click (name : String) (target : Target) (times : Nat)
  | opened (name : String)
  | drop (name : String)
  | run
  | inspect (name : String)
  | sameRoot (name other : String)
  | logout
  | recorded
deriving Repr

inductive Answer where
  | queued
  | done
  | flag (b : Bool)
  | tree (t : Tree)
  | noTree
  | keys (ks : List String)
  | menu (t : Tree) (config : Json) (controlIsFirstChild : Bool)
  | inspected (t : Tree) (alive : Bool)
  | outcome (o : LogoutOutcome)
  | recorded (requests navigations alerts : List String)
deriving Repr, BEq

/-- Why an action cannot be done. -/
inductive ClientError where
  | unknownName (name : String)
  | dropped
  | noControl
  | noSuchRequest
  | widget (error : WidgetError)
deriving Repr, DecidableEq

namespace Client

/-! ## Named widgets -/

def named (c : Client) (name : String) : Except ClientError KeptWidget :=
  match c.widgets.get? name with
  | some kept => .ok kept
  | none => .error (.unknownName name)

/-- Drops the widget of a name, if there is one that is alive. -/
def release (c : Client) (name : String) : Client :=
  match c.widgets.get? name with
  | some { widget, alive := true } =>
    { c with
      page := widget.drop c.page
      widgets := c.widgets.insert name { widget, alive := false } }
  | _ => c

/-- Keeps a widget under a name, instead of the one that was there. -/
def keep (c : Client) (name : String) (widget : Widget) : Client :=
  let c := c.release name
  { c with widgets := c.widgets.insert name { widget } }

/-- Shows what a factory makes: a widget is built, looked at and dropped. -/
def preview (c : Client) (factory : Factory) : Tree × Client :=
  let (widget, page) := factory.build c.page .null
  (page.tree widget.root, { c with page := widget.drop page })

/-- Sets the factory of a key and shows what the replaced one makes. -/
def setFactory (c : Client) (key : String) (factory : Factory) :
    Option Tree × Activity × Client :=
  let activity := Activity.logged (c.registry.setLine key)
  match c.registry.set key factory with
  | (none, registry) => (none, activity, { c with registry })
  | (some previous, registry) =>
    let (tree, c) := { c with registry }.preview previous
    (some tree, activity, c)

/-! ## What has happened -/

/-- The endpoints of the requests that were not held open. -/
def requests (history : List Event) : List String :=
  history.filterMap fun e =>
    match e.effect with
    | .post endpoint => if e.held then none else some endpoint
    | _ => none

def navigations (history : List Event) : List String :=
  history.filterMap fun e =>
    match e.effect with
    | .navigate path => some path
    | _ => none

def alerts (history : List Event) : List String :=
  history.filterMap fun e =>
    match e.effect with
    | .alert text => some text
    | _ => none

/-! ## Actions -/

def answered (a : Answer) (c : Client) (activity : Activity := .none) :
    Except ClientError (Answer × Activity × Client) :=
  .ok (a, activity, c)

/-- Carries out an action, except for keeping the record of what happened. -/
def perform (c : Client) : Action → Except ClientError (Answer × Activity × Client)
  | .respond reply =>
    answered .queued { c with page := { c.page with replies := c.page.replies ++ [reply] } }
  | .hold on => answered .done { c with page := { c.page with holding := on } }
  | .answer request reply =>
    match c.page.answer? request reply with
    | some page => answered (.flag true) { c with page }
    | none => .error .noSuchRequest
  | .register =>
    let (_, registry) := c.registry.set systemMenuKey .systemMenu
    answered .done { c with registry } (.logged (c.registry.setLine systemMenuKey))
  | .set key factory =>
    let (tree, activity, c) := c.setFactory key factory
    answered (tree.elim .noTree .tree) c activity
  | .get key =>
    match c.registry.get key with
    | some factory =>
      let (tree, c) := c.preview factory
      answered (.tree tree) c
    | none => answered .noTree c
  | .contains key => answered (.flag (c.registry.contains key)) c
  | .keys => answered (.keys c.registry.keys) c
  | .create key config name =>
    match c.registry.find key with
    | .ok factory =>
      let (widget, page) := factory.build c.page config
      answered (.tree (page.tree widget.root)) ({ c with page }.keep name widget)
    | .error e => .error (.widget e)
  | .createMenu config name =>
    let (menu, page) := SystemMenu.create c.page config
    answered
      (.menu (page.tree menu.root) menu.config
        ((page.childrenOf menu.root).head? == some menu.control))
      ({ c with page }.keep name (.systemMenu menu))
  | .click name target times => do
    let kept ← c.named name
    let element ←
      match target with
      | .root => .ok kept.widget.root
      | .control =>
        match (c.page.childrenOf kept.widget.root).head? with
        | some child => .ok child
        | none => .error .noControl
    answered .done { c with page := c.page.clickTimes element times }
  | .opened name => do
    let kept ← c.named name
    if kept.alive then answered .done c kept.widget.opened else .error .dropped
  | .drop name => do
    let kept ← c.named name
    answered (.flag kept.alive) (c.release name)
  | .run =>
    let (page, activity) := c.page.run
    answered .done { c with page } activity
  | .inspect name => do
    let kept ← c.named name
    answered (.inspected (c.page.tree kept.widget.root) kept.alive) c
  | .sameRoot name other => do
    let a ← c.named name
    let b ← c.named other
    answered (.flag (a.widget.root == b.widget.root)) c
  | .logout =>
    let (outcome, page, activity) := c.page.logout
    answered (.outcome outcome) { c with page } activity
  | .recorded =>
    answered (.recorded (requests c.history) (navigations c.history) (alerts c.history)) c

/-- The result of an action with what happened on the way. -/
structure Step where
  result : Except ClientError Answer
  activity : Activity := .none

/-- Carries out an action. One that cannot be done changes nothing. -/
def step (c : Client) (action : Action) : Step × Client :=
  match c.perform action with
  | .ok (answer, activity, after) =>
    ({ result := .ok answer, activity },
      { after with history := after.history ++ activity.events })
  | .error e => ({ result := .error e }, c)

def runAll (c : Client) : List Action → List Step × Client
  | [] => ([], c)
  | action :: rest =>
    let (first, c) := c.step action
    let (others, c) := c.runAll rest
    (first :: others, c)

end Client

end MenuHost.Menu
