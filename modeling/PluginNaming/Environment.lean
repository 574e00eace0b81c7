import PluginNaming.Data.Json
import PluginNaming.Name
import PluginNaming.Ordered.Table

set_option autoImplicit false

namespace PluginNaming

open Data Ordered

abbrev Lookup := Name .environment → Option Json

def Lookup.require (lookup : Lookup) (name : Name .environment) : Except Fault Json :=
  match lookup name with
  | some value => .ok value
  | none => .error (.unknownVariable name.text)

structure Environment where
  values : Table (Name .environment) Json

namespace Environment

def empty : Environment := ⟨[]⟩

def set (environment : Environment) (name : Name .environment) (value : Json) : Environment :=
  ⟨environment.values.set name value⟩

def ofList (entries : List (Name .environment × Json)) : Environment :=
  ⟨Table.ofEntries entries⟩

def lookup (environment : Environment) : Lookup :=
  fun name => environment.values.find? name

def names (environment : Environment) : List (Name .environment) :=
  environment.values.keys

end Environment

end PluginNaming
