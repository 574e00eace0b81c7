import PluginNaming.Bundled.Url.Address
import PluginNaming.Url.Library

set_option autoImplicit false

namespace PluginNaming.Bundled

@[reducible]
def urls : UrlLibrary where
  parse text :=
    match Address.read text.toList with
    | .ok address => .ok ⟨false, true, String.ofList address.print⟩
    | .error .cannotBeBase => .ok ⟨true, false, text⟩
    | .error .missingHost => .ok ⟨false, false, text⟩
    | .error defect => .error defect.reason

end PluginNaming.Bundled
