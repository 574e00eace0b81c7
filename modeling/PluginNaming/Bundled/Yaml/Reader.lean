import PluginNaming.Bundled.Yaml.Scalar
import PluginNaming.Bundled.Yaml.Tree

set_option autoImplicit false

namespace PluginNaming.Bundled.Yaml

open PluginNaming.Data

structure Naming where
  places : List (String × Nat)
  given : List Nat
  nodes : List (Nat × Node)

abbrev Linking := StateT Naming Option

namespace Naming

def start : Naming := { places := [], given := [], nodes := [] }

def enter (anchor : Option String) : Linking (Option Nat) :=
  match anchor with
  | none => return none
  | some name => do
      let naming ← get
      let place := naming.places.length
      set { naming with
        places := (name, place) :: naming.places.filter fun entry => entry.1 != name
        given := place :: naming.given }
      return some naming.given.length

def leave (order : Option Nat) (node : Node) : Linking Node := do
  match order with
  | none => return node
  | some order =>
      modify fun naming => { naming with nodes := (order, node) :: naming.nodes }
      return node

def nodeAt (naming : Naming) (place : Nat) : Node :=
  let later := naming.given.takeWhile (· != place)
  (naming.nodes.lookup (naming.given.length - later.length - 1)).getD .nothing

def shared (naming : Naming) : List Node :=
  (List.range naming.given.length).map naming.nodeAt

end Naming

namespace Tree

mutual

def node : Tree → Linking Node
  | .scalar properties plain text => do
      let order ← Naming.enter properties.anchor
      Naming.leave order (scalarNode properties.tag plain text)
  | .sequence properties items => do
      let order ← Naming.enter properties.anchor
      Naming.leave order (.items (!isLocal properties.tag) (← itemNodes items))
  | .mapping properties members => do
      let order ← Naming.enter properties.anchor
      Naming.leave order (.members (!isLocal properties.tag) (← memberNodes members))
  | .link name => do
      let naming ← get
      let place ← liftM (naming.places.lookup name)
      return .reference place

def itemNodes : List Tree → Linking (List Node)
  | [] => return []
  | first :: rest => do
      let item ← node first
      return item :: (← itemNodes rest)

def memberNodes : List (Tree × Tree) → Linking (List (Node × Node))
  | [] => return []
  | (key, value) :: rest => do
      let key ← node key
      let value ← node value
      return (key, value) :: (← memberNodes rest)

end

mutual

def extent : Tree → Nat
  | .sequence _ items => itemExtent items + 2
  | .mapping _ members => memberExtent members + 2
  | _ => 1

def itemExtent : List Tree → Nat
  | [] => 0
  | first :: rest => extent first + itemExtent rest

def memberExtent : List (Tree × Tree) → Nat
  | [] => 0
  | (key, value) :: rest => extent key + extent value + memberExtent rest

end

end Tree

def takeDirectives? (versioned : Bool) (handles : Handles) :
    List Token → Option (Handles × List Token)
  | .directive (.version major minor) :: rest =>
      if versioned || major != 1 || !(minor == 1 || minor == 2) then none
      else takeDirectives? true handles rest
  | .directive (.handle name meaning) :: rest =>
      if handles.any fun entry => entry.1 == name then none
      else takeDirectives? versioned (handles ++ [(name, meaning)]) rest
  | rest => some (handles, rest)

def isDocumentEnd : Token → Bool
  | .documentEnd => true
  | _ => false

def endsDocument : List Token → Bool
  | [] | .directive _ :: _ | .documentStart :: _ | .documentEnd :: _ => true
  | _ => false

def readDocument? (tokens : List Token) : Option Tree := do
  let (handles, content) ← takeDirectives? false [] tokens
  let known := handles ++ Handles.usual
  let (tree, rest) ←
    match content with
    | .documentStart :: rest =>
        (readOptional? known .item (endsDocument rest) rest).map fun found => (found.1, found.2.1)
    | [] => if tokens.isEmpty then some (.empty, []) else none
    | content =>
        if content.length < tokens.length then none
        else (readTree? known .item content).map fun found => (found.1, found.2.1)
  if (rest.dropWhile isDocumentEnd).isEmpty then some tree else none

def levels : Nat := 128

def repetitions : Nat := 100

def document? (text : String) : Option Document := do
  let tree ← readDocument? (← tokens? text.toList)
  let (root, naming) ← tree.node.run .start
  return {
    root
    shared := naming.shared
    levels
    steps := tree.extent * repetitions
    byOrder := .never }

end PluginNaming.Bundled.Yaml
