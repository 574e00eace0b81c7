import PluginNaming.AliasSet
import PluginNaming.Selector.Evaluation
import PluginNaming.Vocabulary

set_option autoImplicit false

namespace PluginNaming

variable [UrlLibrary] {kind : NameKind} {σ τ : Type}

structure Provider (kind : NameKind) (σ τ : Type) where
  name : Name .provider
  url : Url
  infos : InfoSet kind
  plugin : Lookup → Call kind σ τ

def Provider.select (provider : Provider kind σ τ) (lookup : Lookup) (selector : Selector kind) :
    Action σ τ := do
  let values ← selector.evaluate lookup (provider.plugin lookup)
  provider.plugin lookup selector.name values

structure AliasedProvider (kind : NameKind) (σ τ : Type) where
  aliases : AliasSet kind
  infos : InfoSet kind
  inner : Provider kind σ τ
  unknown : Unknown kind

namespace AliasedProvider

def wrap (aliases : AliasSet kind) (inner : Provider kind σ τ) (unknown : Unknown kind) :
    Except Fault (AliasedProvider kind σ τ) := do
  return { aliases, infos := ← aliases.merge inner.infos, inner, unknown }

def target (provider : AliasedProvider kind σ τ) (name : Name kind) :
    Except Fault (Selector kind) :=
  if provider.infos.hasName name then
    match provider.aliases.resolve { name, text := "" } with
    | .ok (some selector) => .ok selector
    | .ok none => .error (provider.unknown name)
    | .error fault => .error fault
  else .error (provider.unknown name)

-- Parameters that an alias declares name plugins of the inner provider.
def plugin (provider : AliasedProvider kind σ τ) (lookup : Lookup) : Call kind σ τ :=
  fun name values => do
    let target ← liftExcept (provider.target name)
    if target.text = "" then provider.inner.plugin lookup target.name values
    else if values.isEmpty then
      let declared ← target.evaluate lookup (provider.inner.plugin lookup)
      provider.inner.plugin lookup target.name declared
    else throw (.invalidAlias name.text (.parametersGivenTwice target.text))

def toProvider (provider : AliasedProvider kind σ τ) : Provider kind σ τ where
  name := provider.inner.name
  url := provider.inner.url
  infos := provider.infos
  plugin := provider.plugin

end AliasedProvider

end PluginNaming
