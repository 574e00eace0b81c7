import PluginNaming.Instance

set_option autoImplicit false

namespace PluginNaming

def firstRepeat? (seen : List (Name .provider)) : List (Name .provider) → Option (Name .provider)
  | [] => none
  | name :: rest => if name ∈ seen then some name else firstRepeat? (name :: seen) rest

theorem nodup_of_no_repeat (seen names : List (Name .provider))
    (absent : firstRepeat? seen names = none) : names.Nodup ∧ ∀ name ∈ names, name ∉ seen := by
  induction names generalizing seen with
  | nil => simp
  | cons name rest hypothesis =>
      simp only [firstRepeat?] at absent
      split at absent
      · simp at absent
      · rename_i fresh
        obtain ⟨distinct, apart⟩ := hypothesis (name :: seen) absent
        refine ⟨List.nodup_cons.mpr ⟨fun member => ?_, distinct⟩, fun other member => ?_⟩
        · exact apart name member List.mem_cons_self
        · rcases List.mem_cons.mp member with same | later
          · exact same ▸ fresh
          · exact fun earlier => apart other later (List.mem_cons_of_mem _ earlier)

variable [UrlLibrary]

structure Entry where
  name : Name .provider
  url : Url
  infos : InfoSet .plugin
  aliases : Option (AliasSet .plugin)
deriving BEq

namespace Entry

def make (entry : Entry) (name : Name .plugin) (values : List (Value Instance)) :
    Except Fault Instance :=
  match entry.infos.byName? name with
  | some info => .ok (.made entry.name info values)
  | none => .error (unknownName .plugin name)

def listed (entry : Entry) : Provider .plugin Unit Instance where
  name := entry.name
  url := entry.url
  infos := entry.infos
  plugin := fun _ name values => liftExcept (entry.make name values)

def provider (entry : Entry) : Except Fault (Provider .plugin Unit Instance) :=
  match entry.aliases with
  | none => .ok entry.listed
  | some aliases =>
      return (← AliasedProvider.wrap aliases entry.listed (unknownName .plugin)).toProvider

end Entry

structure Contents where
  entries : List Entry
  environment : Environment

structure Catalog extends Contents where
  distinct : (entries.map Entry.name).Nodup

namespace Catalog

def ofContents (contents : Contents) : Except (Name .provider) Catalog :=
  match repeats : firstRepeat? [] (contents.entries.map Entry.name) with
  | some name => .error name
  | none => .ok { contents with distinct := (nodup_of_no_repeat [] _ repeats).1 }

def providers (catalog : Catalog) : Except Fault (List (Provider .plugin Unit Instance)) :=
  catalog.entries.mapM Entry.provider

def registry (catalog : Catalog) : Except Fault (Registry .plugin Unit Instance) := do
  return .ofList (← catalog.providers) (unknownName .plugin)

def resolve (catalog : Catalog) (selector : Selector .plugin) : Except Fault Instance := do
  let registry ← catalog.registry
  ((registry.select catalog.environment.lookup selector).perform ()).1

instance : BEq Catalog :=
  ⟨fun a b => a.entries == b.entries && a.environment.values == b.environment.values⟩

end Catalog

end PluginNaming
