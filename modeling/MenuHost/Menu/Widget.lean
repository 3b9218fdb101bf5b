import MenuHost.Json.Basic
import MenuHost.Menu.Page

/-!
# Widgets

A widget puts its elements on a page and holds the listeners on them; when it is
dropped, its elements stay and its listeners are detached.

The system menu is a container with one control, and a click on the control logs
out. It takes any configuration and looks at none of it.
-/

namespace MenuHost.Menu

def systemMenuKey : String := "solidcoredata.org/base/spa/system-menu"

def rootText : String := "hello world"

def logoutText : String := "logout"

def menuTag : String := "div"

def placeholderTag : String := "stub"

structure SystemMenu where
  root : Nat
  control : Nat
  listener : Nat
  config : Json
deriving Repr, BEq, Inhabited

/-- A widget on a page: a system menu, or a placeholder that shows a text. -/
inductive Widget where
  | systemMenu (menu : SystemMenu)
  | placeholder (root : Nat)
deriving Repr, BEq, Inhabited

inductive Factory where
  | systemMenu
  | placeholder (text : String)
deriving Repr, DecidableEq

namespace SystemMenu

def create (p : Page) (config : Json) : SystemMenu × Page :=
  let (control, p) := p.createElement menuTag logoutText []
  let (root, p) := p.createElement menuTag rootText [control]
  let (listener, p) := p.listen control
  ({ root, control, listener, config }, p)

end SystemMenu

namespace Widget

/-- The element that stands for the widget. -/
def root : Widget → Nat
  | systemMenu menu => menu.root
  | placeholder root => root

/-- The widget is shown: the system menu logs that, a placeholder does nothing. -/
def opened : Widget → Activity
  | systemMenu _ => .logged (.info "application started")
  | placeholder _ => .none

/-- Drops the widget: its listener is detached. -/
def drop (w : Widget) (p : Page) : Page :=
  match w with
  | systemMenu menu => p.detach menu.listener
  | placeholder _ => p

end Widget

namespace Factory

def build (f : Factory) (p : Page) (config : Json) : Widget × Page :=
  match f with
  | systemMenu =>
    let (menu, p) := SystemMenu.create p config
    (.systemMenu menu, p)
  | placeholder text =>
    let (root, p) := p.createElement placeholderTag text []
    (.placeholder root, p)

end Factory

end MenuHost.Menu
