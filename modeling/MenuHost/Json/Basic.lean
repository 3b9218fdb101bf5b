import MenuHost.Number.Double
import MenuHost.Table

/-!
# JSON values

The values that widget configurations are made of. Integers and other numbers are
kept apart, because `1.0` is no integer and error texts tell the two apart.

An object is a list of members. `Json.Reader` puts them into the order of their
keys and keeps the last of several members of one key, so that a lookup has at
most one member to find.
-/

namespace MenuHost

inductive Json where
  | null
  | bool (b : Bool)
  | int (n : Int)
  | double (x : Double)
  | string (s : String)
  | array (items : List Json)
  | object (members : List (String × Json))
deriving Repr, BEq, Inhabited

namespace Json

/-- The value of a member, if an object has one of that key. -/
def member? (key : String) (members : List (String × Json)) : Option Json :=
  members.lookup key

/-- Sets a member, keeping the members in the order of their keys. -/
def setMember (key : String) (value : Json) (members : List (String × Json)) :
    List (String × Json) :=
  Table.put key value members

end Json

end MenuHost
