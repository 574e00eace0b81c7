import PluginNaming.Data.Json.Writer
import PluginNaming.Registry

set_option autoImplicit false

namespace PluginNaming

open Data Text

variable [UrlLibrary]

inductive Instance where
  | made (provider : Name .provider) (info : Info .plugin) (values : List (Value Instance))

namespace Instance

def provider : Instance → Name .provider
  | .made provider _ _ => provider

def info : Instance → Info .plugin
  | .made _ info _ => info

def values : Instance → List (Value Instance)
  | .made _ _ values => values

mutual

def text : Instance → String
  | .made _ info [] => info.name.text
  | .made _ info (first :: rest) =>
      info.name.text ++ "(" ++ valueText first ++ restText rest ++ ")"

def valueText : Value Instance → String
  | .environment value => value.write
  | .provided plugin => plugin.text
  | .number value => value.text
  | .text value => quote value

def restText : List (Value Instance) → String
  | [] => ""
  | first :: rest => ", " ++ valueText first ++ restText rest

end

def line (depth : Nat) (text : String) : String :=
  String.ofList (List.replicate (2 * depth) ' ') ++ text ++ "\n"

mutual

def tree (depth : Nat) : Instance → String
  | .made provider info values =>
      line depth s!"{info.name} [{provider}] {info.url.text}" ++ treeAll (depth + 1) values

def treeValue (depth : Nat) : Value Instance → String
  | .environment value => line depth value.write
  | .provided plugin => plugin.tree depth
  | .number value => line depth value.text
  | .text value => line depth (quote value)

def treeAll (depth : Nat) : List (Value Instance) → String
  | [] => ""
  | first :: rest => treeValue depth first ++ treeAll depth rest

end

end Instance

end PluginNaming
