import PluginNaming.Data.Json

set_option autoImplicit false

namespace PluginNaming.Bundled

open PluginNaming.Data PluginNaming.Ordered

structure Scalar where
  text : Option String
  value : Option Json
  absent : Option Bool
  blank : Bool

inductive Node where
  | scalar (scalar : Scalar)
  | items (valued : Bool) (nodes : List Node)
  | members (valued : Bool) (nodes : List (Node × Node))
  | reference (index : Nat)

namespace Node

def ofText (text : String) : Node :=
  .scalar { text := some text, value := some (.text text), absent := some false, blank := false }

def ofValue (value : Option Json) : Node :=
  let absent :=
    match value with
    | some .null => true
    | _ => false
  .scalar { text := none, value, absent := some absent, blank := false }

def nothing : Node :=
  .scalar { text := some "", value := some .null, absent := some true, blank := true }

mutual

def depth : Node → Nat
  | .items _ nodes => itemDepth nodes + 1
  | .members _ nodes => memberDepth nodes + 1
  | _ => 0

def itemDepth : List Node → Nat
  | [] => 0
  | first :: rest => max (depth first) (itemDepth rest)

def memberDepth : List (Node × Node) → Nat
  | [] => 0
  | (_, first) :: rest => max (depth first) (memberDepth rest)

end

end Node

inductive ByOrder where
  | never
  | exactly
  | loosely
deriving DecidableEq

structure Document where
  root : Node
  shared : List Node
  levels : Nat
  steps : Nat
  byOrder : ByOrder

def Document.plain (root : Node) (levels : Nat) (byOrder : ByOrder) : Document :=
  { root, shared := [], levels, steps := 0, byOrder }

abbrev Reading := StateT Nat Option

namespace Document

def follow (document : Document) : Node → Reading Node
  | .reference index => do
      match ← get, document.shared[index]? with
      | steps + 1, some node => set steps; return node
      | _, _ => failure
  | node => return node

def text (document : Document) (node : Node) : Reading String := do
  match ← document.follow node with
  | .scalar scalar => liftM scalar.text
  | _ => failure

def items (document : Document) (node : Node) : Reading (List Node) := do
  match ← document.follow node with
  | .items _ nodes => return nodes
  | .scalar scalar => if scalar.blank then return [] else failure
  | _ => failure

def members (document : Document) (node : Node) : Reading (List (Node × Node)) := do
  match ← document.follow node with
  | .members _ nodes => return nodes
  | .scalar scalar => if scalar.blank then return [] else failure
  | _ => failure

def present (document : Document) (node : Node) : Reading (Option Node) := do
  match ← document.follow node with
  | .scalar scalar => return if ← liftM scalar.absent then none else some (.scalar scalar)
  | node => return some node

def value (document : Document) (levels : Nat) (node : Node) : Reading Json := do
  match ← document.follow node, levels with
  | .scalar scalar, _ => liftM scalar.value
  | .items true nodes, levels + 1 => return .array (← nodes.mapM (value document levels))
  | .members true nodes, levels + 1 =>
      let members ← nodes.mapM fun (key, node) => do
        return (← document.text key, ← value document levels node)
      return .object (Table.ofEntries members)
  | _, _ => failure

def single (members : List (String × Node)) (key : String) : Option (Option Node) :=
  match members.filter fun member => member.1 == key with
  | [] => some none
  | [member] => some (some member.2)
  | _ => none

def fields (document : Document) (names : List String) (node : Node) :
    Reading (List (Option Node)) := do
  match ← document.follow node with
  | .scalar scalar => if scalar.blank then return names.map fun _ => none else failure
  | .items _ nodes =>
      if document.byOrder = .loosely ∨
          (document.byOrder = .exactly ∧ nodes.length ≤ names.length) then
        return names.zipIdx.map fun (_, place) => nodes[place]?
      else failure
  | .members _ nodes =>
      let named ← nodes.mapM fun (key, node) => return (← document.text key, node)
      liftM (names.mapM (single named))
  | .reference _ => failure

def read? {α : Type} (document : Document) (reading : Document → Node → Reading α) : Option α :=
  (reading document document.root).run' document.steps

end Document

end PluginNaming.Bundled
