import PluginNaming.Provider

set_option autoImplicit false

namespace PluginNaming

open Ordered

variable [UrlLibrary] {kind : NameKind} {σ τ : Type}

structure Claim (kind : NameKind) where
  owner : Nat
  info : Info kind

structure Claims (kind : NameKind) where
  first : Table (Name kind) (Claim kind)
  ambiguous : List (Name kind)

def Claims.add (claims : Claims kind) (claim : Claim kind) : Claims kind :=
  match claims.first.find? claim.info.name with
  | none => { claims with first := claims.first.set claim.info.name claim }
  | some earlier =>
      if earlier.info = claim.info then claims
      else { claims with ambiguous := Ordered.insert claim.info.name claims.ambiguous }

structure Registry (kind : NameKind) (σ τ : Type) where
  providers : List (Provider kind σ τ)
  owners : Table (Name kind) Nat
  ambiguous : List (Name kind)
  unknown : Unknown kind

namespace Registry

def published (providers : List (Provider kind σ τ)) : List (Claim kind) :=
  providers.zipIdx.flatMap fun (provider, owner) =>
    provider.infos.infos.map fun info => { owner, info }

def ofList (providers : List (Provider kind σ τ)) (unknown : Unknown kind) :
    Registry kind σ τ :=
  let claims := (published providers).foldl Claims.add { first := [], ambiguous := [] }
  let clear := List.filter (fun entry => !claims.ambiguous.contains entry.1) claims.first
  { providers
    owners := clear.map fun entry => (entry.1, entry.2.owner)
    ambiguous := claims.ambiguous
    unknown }

def infos (registry : Registry kind σ τ) : List (Info kind) :=
  sorted (registry.providers.flatMap fun provider => provider.infos.infos)

def ownerOf? (registry : Registry kind σ τ) (name : Name kind) : Option (Provider kind σ τ) := do
  let index ← registry.owners.find? name
  registry.providers[index]?

def require (registry : Registry kind σ τ) (name : Name kind) :
    Except Fault (Provider kind σ τ) :=
  match registry.ownerOf? name with
  | some provider => .ok provider
  | none => .error (registry.unknown name)

def plugin (registry : Registry kind σ τ) (lookup : Lookup) : Call kind σ τ :=
  fun name values => do
    let provider ← liftExcept (registry.require name)
    provider.plugin lookup name values

def select (registry : Registry kind σ τ) (lookup : Lookup) (selector : Selector kind) :
    Action σ τ := do
  let _ ← liftExcept (registry.require selector.name)
  let values ← selector.evaluate lookup (registry.plugin lookup)
  registry.plugin lookup selector.name values

def listed (items : List String) : String :=
  ", ".intercalate items

def describe (registry : Registry kind σ τ) : String :=
  "ProviderCollection \x7b providers: [" ++
    listed (registry.providers.map fun provider => provider.name.describe) ++ "], names: [" ++
    listed (registry.owners.keys.map Name.describe) ++ "], ambiguous: \x7b" ++
    listed (registry.ambiguous.map Name.describe) ++ "\x7d \x7d"

end Registry

end PluginNaming
