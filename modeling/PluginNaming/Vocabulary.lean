import PluginNaming.Name

set_option autoImplicit false

namespace PluginNaming

open Text

abbrev Unknown (kind : NameKind) := Name kind → Fault

def unknownName (kind : NameKind) : Unknown kind :=
  fun name => .unknownName kind.label name.text

structure Vocabulary (kind : NameKind) where
  label : String
  unknown : Unknown kind := unknownName kind

def Vocabulary.describe {kind : NameKind} (vocabulary : Vocabulary kind) : String :=
  "PluginHelper \x7b label: " ++ quote vocabulary.label ++ ", kind: " ++ quote kind.label ++ " \x7d"

def Name.describe {kind : NameKind} (name : Name kind) : String :=
  kind.typeLabel ++ "(" ++ quote name.text ++ ")"

end PluginNaming
