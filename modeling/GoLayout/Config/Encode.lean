import GoLayout.Config.Decode
import GoLayout.Json.Writer

/-!
# Writing configurations

A configuration is written as a JSON object with all of its fields, in their order.
-/

namespace GoLayout

namespace Config

/-- The value of a field as JSON. -/
def fieldJson (c : Config) : Field → Json.Layout
  | .indentUnit => Json.number c.indentUnit
  | .tabSize => Json.number c.tabSize
  | .indentWithTabs => Json.bool c.indentWithTabs

/-- A configuration as JSON. -/
def json (c : Config) : Json.Layout := Json.object (Field.all.map fun f => (f.key, c.fieldJson f))

/-- The text of a configuration. -/
def encode (c : Config) : String := c.json 0

end Config

end GoLayout
