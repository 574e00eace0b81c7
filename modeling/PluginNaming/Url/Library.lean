set_option autoImplicit false

namespace PluginNaming

structure ParsedUrl where
  cannotBeBase : Bool
  hasHost : Bool
  normalForm : String
deriving DecidableEq

-- The url library is not part of this development; a text that it refuses it gives a reason for.
class UrlLibrary where
  parse : String → Except String ParsedUrl

inductive Url.Defect where
  | refused (reason : String)
  | cannotBeBase
  | missingHost
deriving DecidableEq

def Url.Defect.reason : Url.Defect → String
  | .refused reason => reason
  | .cannotBeBase => "cannot be a base"
  | .missingHost => "missing host"

end PluginNaming
