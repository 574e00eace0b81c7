import PluginNaming.Environment
import PluginNaming.Selector.Arguments

set_option autoImplicit false

namespace PluginNaming

open Data Number

inductive Value (τ : Type) where
  | environment (value : Json)
  | provided (plugin : τ)
  | number (value : Binary64)
  | text (value : String)

abbrev Action (σ α : Type) := ExceptT Fault (StateM σ) α

def Action.perform {σ α : Type} (action : Action σ α) (state : σ) : Except Fault α × σ :=
  action.run state

abbrev Call (kind : NameKind) (σ τ : Type) := Name kind → List (Value τ) → Action σ τ

variable {kind : NameKind} {σ τ : Type}

mutual

def Argument.run (lookup : Lookup) (call : Call kind σ τ) (fault : Stop → Fault) :
    Argument kind → Action σ (Value τ)
  | .reference name => do
      let value ← liftExcept (lookup.require name)
      return .environment value
  | .call name arguments => do
      let values ← arguments.run lookup call fault
      let plugin ← call name values
      return .provided plugin
  | .number value => return .number value
  | .text value => return .text value

def Arguments.run (lookup : Lookup) (call : Call kind σ τ) (fault : Stop → Fault) :
    Arguments kind → Action σ (List (Value τ))
  | .none => return []
  | .more first others => do
      let value ← first.run lookup call fault
      let values ← others.run lookup call fault
      return value :: values
  | .broken stop => throw (fault stop)

end

namespace Selector

def relocate (selector : Selector kind) (fault : Fault) : Fault :=
  if fault.subject? = some selector.text then
    fault.relocate selector.print (selector.name.text.length + 1)
  else fault

def arguments (selector : Selector kind) : Arguments kind :=
  .ofText kind selector.text.toList

def evaluate (selector : Selector kind) (lookup : Lookup) (call : Call kind σ τ) :
    Action σ (List (Value τ)) :=
  ExceptT.adapt selector.relocate
    (selector.arguments.run lookup call (Stop.fault selector.text))

end Selector

end PluginNaming
