import PluginNaming.Bundled.Node

set_option autoImplicit false

namespace PluginNaming.Bundled.Toml

open PluginNaming.Data

inductive Origin where
  | implied
  | declared
  | dotted
deriving DecidableEq

inductive Slot where
  | value (node : Node)
  | table (origin : Origin) (slots : List (String × Slot))
  | tables (rows : List (List (String × Slot)))

abbrev Slots := List (String × Slot)

namespace Slots

def change (key : String) (alter : Option Slot → Option Slot) : Slots → Option Slots
  | [] => (alter none).map fun slot => [(key, slot)]
  | (other, slot) :: rest =>
      if other = key then (alter (some slot)).map fun slot => (key, slot) :: rest
      else (change key alter rest).map ((other, slot) :: ·)

def within (alter : Slots → Option Slots) : List String → Slots → Option Slots
  | [] => alter
  | key :: path => change key fun
      | none => (within alter path []).map (.table .implied)
      | some (.table origin slots) => (within alter path slots).map (.table origin)
      | some (.tables (last :: rows)) =>
          (within alter path last).map fun last => .tables (last :: rows)
      | _ => none

def declare (slots : Slots) (path : List String) : Option Slots := do
  let key ← path.getLast?
  within (change key fun
    | none => some (.table .declared [])
    | some (.table .implied slots) => some (.table .declared slots)
    | _ => none) path.dropLast slots

def append (slots : Slots) (path : List String) : Option Slots := do
  let key ← path.getLast?
  within (change key fun
    | none => some (.tables [[]])
    | some (.tables rows) => some (.tables ([] :: rows))
    | _ => none) path.dropLast slots

def assign (node : Node) (direct : Bool) : List String → Slots → Option Slots
  | [], _ => none
  | [key], slots =>
      if direct then
        slots.change key fun
          | none => some (.value node)
          | some _ => none
      else none
  | key :: path, slots => slots.change key fun
      | none => (assign node true path []).map (.table .dotted)
      | some (.table .dotted inner) => (assign node true path inner).map (.table .dotted)
      | some (.table .implied inner) => (assign node false path inner).map (.table .implied)
      | some (.tables (last :: rows)) =>
          (assign node false path last).map fun last => .tables (last :: rows)
      | _ => none

mutual

def slotNode : Slot → Node
  | .value node => node
  | .table _ slots => .members true (memberNodes slots)
  | .tables rows => .items true (rowNodes rows).reverse

def memberNodes : List (String × Slot) → List (Node × Node)
  | [] => []
  | (key, slot) :: rest => (.ofText key, slotNode slot) :: memberNodes rest

def rowNodes : List (List (String × Slot)) → List Node
  | [] => []
  | first :: rest => .members true (memberNodes first) :: rowNodes rest

end

def node (slots : Slots) : Node := .members true (memberNodes slots)

end Slots

end PluginNaming.Bundled.Toml
