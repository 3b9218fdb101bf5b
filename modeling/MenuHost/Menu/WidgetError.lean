import MenuHost.Text.Quoted

/-!
# What can go wrong with a widget
-/

namespace MenuHost.Menu

inductive WidgetError where
  | unknownWidget (key : String)
  | invalidConfig (why : String)
  | missingGlobal (name : String)
deriving Repr, DecidableEq

def WidgetError.message : WidgetError → String
  | .unknownWidget key => "no widget registered under " ++ Text.quoted key
  | .invalidConfig why => "widget config is invalid: " ++ why
  | .missingGlobal name => "browser global `" ++ name ++ "` is not available"

end MenuHost.Menu
