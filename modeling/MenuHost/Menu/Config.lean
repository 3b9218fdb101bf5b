import MenuHost.Json.Printer
import MenuHost.Menu.WidgetError
import MenuHost.Text.Quoted

/-!
# Menu configurations

The typed view of a system menu's configuration: an optional kind, and the
entries of the menu with their names and locations.

A configuration and an entry may be written as an object or, by position, as an
array. Members that the view does not know are ignored. What does not have the
right shape is refused with an error that says what stands there and what was
expected.
-/

namespace MenuHost.Menu

/-! ## Shape errors -/

/-- Why a JSON value does not have the shape that was asked for. -/
inductive ShapeError where
  | wrongKind (found : Json) (expected : String)
  | tooShort (length : Nat) (expected : String)
  | tooLong (length : Nat)
  | missingField (name : String)
deriving Repr, BEq

/-- How a value is named when it stands where it should not. -/
def describe : Json → String
  | .null => "null"
  | .bool b => "boolean `" ++ toString b ++ "`"
  | .int n => "integer `" ++ toString n ++ "`"
  | .double x => "floating point `" ++ x.text ++ "`"
  | .string s => "string " ++ Text.quoted s
  | .array _ => "sequence"
  | .object _ => "map"

def ShapeError.message : ShapeError → String
  | wrongKind found expected =>
    "invalid type: " ++ describe found ++ ", expected " ++ expected
  | tooShort length expected =>
    "invalid length " ++ toString length ++ ", expected " ++ expected
  | tooLong length =>
    "invalid length " ++ toString length ++ ", expected fewer elements in array"
  | missingField name => "missing field `" ++ name ++ "`"

/-! ## Entries and configurations -/

structure MenuEntry where
  name : String
  location : String
deriving Repr, DecidableEq

structure SystemMenuConfig where
  kind : Option String := none
  menu : List MenuEntry := []
deriving Repr, DecidableEq

def stringOfJson : Json → Except ShapeError String
  | .string s => .ok s
  | other => .error (.wrongKind other "a string")

def field? {α : Type} (read : Json → Except ShapeError α) (key : String)
    (members : List (String × Json)) : Except ShapeError (Option α) :=
  match Json.member? key members with
  | some value => (read value).map some
  | none => .ok none

namespace MenuEntry

def nameKey : String := "Name"

def locationKey : String := "Location"

/-- An entry as an object needs both members; as an array it has just the name
and the location. Members are looked at in the order of their keys. -/
def ofJson : Json → Except ShapeError MenuEntry
  | .object members => do
    let location ← field? stringOfJson locationKey members
    let name ← field? stringOfJson nameKey members
    match name, location with
    | some name, some location => .ok { name, location }
    | none, _ => .error (.missingField nameKey)
    | some _, none => .error (.missingField locationKey)
  | .array [] => .error (.tooShort 0 "struct MenuEntry with 2 elements")
  | .array [name] => do
    let _ ← stringOfJson name
    .error (.tooShort 1 "struct MenuEntry with 2 elements")
  | .array (name :: location :: rest) => do
    let name ← stringOfJson name
    let location ← stringOfJson location
    if rest.isEmpty then .ok { name, location } else .error (.tooLong (rest.length + 2))
  | other => .error (.wrongKind other "struct MenuEntry")

def toJson (e : MenuEntry) : Json :=
  .object [(nameKey, .string e.name), (locationKey, .string e.location)]

end MenuEntry

/-- The entries of a list, up to the first that is none. -/
def entriesOfJson : List Json → Except ShapeError (List MenuEntry)
  | [] => .ok []
  | item :: rest => do
    let entry ← MenuEntry.ofJson item
    let entries ← entriesOfJson rest
    .ok (entry :: entries)

def menuOfJson : Json → Except ShapeError (List MenuEntry)
  | .array items => entriesOfJson items
  | other => .error (.wrongKind other "a sequence")

namespace SystemMenuConfig

def kindKey : String := "Type"

def menuKey : String := "Menu"

/-- A kind may be left out by writing `null`. -/
def kindOfJson : Json → Except ShapeError (Option String)
  | .null => .ok none
  | other => (stringOfJson other).map some

/-- Both members may be missing. Members are looked at in the order of their
keys, elements by position. -/
def ofJson : Json → Except ShapeError SystemMenuConfig
  | .object members => do
    let menu ← field? menuOfJson menuKey members
    let kind ← field? kindOfJson kindKey members
    .ok { kind := kind.getD none, menu := menu.getD [] }
  | .array [] => .ok {}
  | .array [kind] => do
    let kind ← kindOfJson kind
    .ok { kind }
  | .array (kind :: menu :: rest) => do
    let kind ← kindOfJson kind
    let menu ← menuOfJson menu
    if rest.isEmpty then .ok { kind, menu } else .error (.tooLong (rest.length + 2))
  | other => .error (.wrongKind other "struct SystemMenuConfig")

/-- The configuration as an object, without the kind if there is none. -/
def toJson (c : SystemMenuConfig) : Json :=
  let menu := (menuKey, Json.array (c.menu.map MenuEntry.toJson))
  match c.kind with
  | some kind => .object [(kindKey, .string kind), menu]
  | none => .object [menu]

end SystemMenuConfig

/-! ## Views -/

/-- The view of a configuration that `read` gives. What does not have its shape is
an invalid configuration. -/
def viewAs {α : Type} (read : Json → Except ShapeError α) (config : Json) :
    Except WidgetError α :=
  match read config with
  | .ok view => .ok view
  | .error e => .error (.invalidConfig e.message)

end MenuHost.Menu
