import MenuHost.Log
import MenuHost.Menu.WidgetError
import MenuHost.Table

/-!
# The widget registry

Which factory makes the widgets of a key. The last factory set for a key counts;
setting a key again returns the factory that is replaced, and is logged as a
warning.
-/

namespace MenuHost.Menu

/-- Factories by key. -/
structure Registry (φ : Type) where
  factories : Table φ

namespace Registry

variable {φ : Type}

def empty : Registry φ := ⟨.empty⟩

def get (r : Registry φ) (key : String) : Option φ :=
  r.factories.get? key

def contains (r : Registry φ) (key : String) : Bool :=
  r.factories.contains key

def keys (r : Registry φ) : List String :=
  r.factories.keys

def setLine (r : Registry φ) (key : String) : LogLine :=
  if r.contains key then
    .warn ("widget " ++ key ++ " was registered twice, keeping the latest")
  else
    .debug ("registered widget " ++ key)

/-- Sets the factory of a key: the one it replaces, and the new registry. -/
def set (r : Registry φ) (key : String) (factory : φ) : Option φ × Registry φ :=
  (r.get key, ⟨r.factories.insert key factory⟩)

/-- The factory of a key, or the error that it has none. -/
def find (r : Registry φ) (key : String) : Except WidgetError φ :=
  match r.get key with
  | some factory => .ok factory
  | none => .error (.unknownWidget key)

end Registry

end MenuHost.Menu
