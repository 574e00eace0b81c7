import PluginNaming.InfoSet
import PluginNaming.Ordered.Table
import PluginNaming.Selector
import PluginNaming.Vocabulary

set_option autoImplicit false

namespace PluginNaming

open Ordered

variable [UrlLibrary]

structure Translation (kind : NameKind) where
  infos : InfoSet kind
  names : Table (Name kind) (Name kind)
  unknown : Unknown kind

namespace Translation

variable {kind : NameKind}

def matching (view provided : InfoSet kind) : Table (Name kind) (Name kind) :=
  view.infos.filterMap fun info =>
    (provided.byUrl? info.url).map fun found => (info.name, found.name)

def direct (view provided : InfoSet kind) (unknown : Unknown kind) : Translation kind where
  infos := provided.restrict view
  names := matching view provided
  unknown

def filtered (view provided : InfoSet kind) (unknown : Unknown kind) : Translation kind where
  infos := view.restrict provided
  names := matching (view.restrict provided) provided
  unknown

def renamed (view provided : InfoSet kind) (unknown : Unknown kind) :
    Except Fault (Translation kind) := do
  let infos ← provided.rename view
  return { infos, names := matching infos provided, unknown }

def merged (view provided : InfoSet kind) (unknown : Unknown kind) :
    Except Fault (Translation kind) := do
  let kept := provided.keep fun info => !(view.hasUrl info.url || view.hasName info.name)
  let infos ← InfoSet.ofList (kept.infos ++ view.infos)
  return { infos, names := matching infos provided, unknown }

def name (translation : Translation kind) (name : Name kind) : Except Fault (Name kind) :=
  match translation.names.find? name with
  | some provided => .ok provided
  | none => .error (translation.unknown name)

def selector (translation : Translation kind) (selector : Selector kind) :
    Except Fault (Selector kind) := do
  return { selector with name := ← translation.name selector.name }

def describe (translation : Translation kind) : String :=
  "\x7b" ++ ", ".intercalate
    (translation.names.map fun entry => entry.1.describe ++ ": " ++ entry.2.describe) ++ "\x7d"

end Translation

end PluginNaming
