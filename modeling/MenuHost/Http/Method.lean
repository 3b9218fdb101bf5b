import MenuHost.Http.Header

/-!
# Methods

A method is any token of the protocol; upper and lower case differ.
-/

namespace MenuHost.Http

structure Method where
  name : String
deriving Repr, DecidableEq

namespace Method

def ofString? (s : String) : Option Method :=
  let bytes := Text.Utf8.encode s
  if ¬ bytes.isEmpty ∧ bytes.all isTokenByte then some ⟨s⟩ else none

def invalidMessage : String := "invalid HTTP method"

/-- The one method that the routes take. -/
def post : Method := ⟨"POST"⟩

end Method

end MenuHost.Http
