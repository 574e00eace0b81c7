set_option autoImplicit false

namespace PluginNaming

inductive Command where
  | infos (text : String)
  | aliases (text : String)
  | merge (aliases infos : String)
  | list (catalog : String)
  | resolve (catalog selector : String)
deriving DecidableEq

def Command.catalog? : Command → Option String
  | .list catalog => some catalog
  | .resolve catalog _ => some catalog
  | _ => none

structure Invocation where
  verbose : Bool
  command : Option Command
deriving DecidableEq

end PluginNaming
