import PluginNaming.Data.Json.Writer
import PluginNaming.Fault

set_option autoImplicit false

namespace PluginNaming.Data.Json

def sort : Json → String
  | .null => "null"
  | .boolean value => s!"boolean \x60{value}\x60"
  | .whole value => s!"integer \x60{value}\x60"
  | .real value => "floating point \x60" ++ write (.real value) ++ "\x60"
  | .text value => "string " ++ Text.quote value
  | .array _ => "sequence"
  | .object _ => "map"

def expectText : Json → Except String String
  | .text value => .ok value
  | value => .error s!"invalid type: {value.sort}, expected a string"

def readText {α : Type} (parse : String → Except Fault α) (value : Json) : Except String α := do
  let text ← value.expectText
  (parse text).mapError Fault.message

end PluginNaming.Data.Json
