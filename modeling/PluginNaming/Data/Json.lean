import PluginNaming.Number.Printed
import PluginNaming.Ordered.Table

set_option autoImplicit false

namespace PluginNaming.Data

open PluginNaming.Number

inductive Json where
  | null
  | boolean (value : Bool)
  | whole (value : Int)
  | real (value : Binary64)
  | text (value : String)
  | array (items : List Json)
  | object (members : List (String × Json))

namespace Json

mutual

def same : Json → Json → Bool
  | .null, .null => true
  | .boolean a, .boolean b => a == b
  | .whole a, .whole b => a == b
  | .real a, .real b => decide (a = b)
  | .text a, .text b => a == b
  | .array a, .array b => sameItems a b
  | .object a, .object b => sameMembers a b
  | _, _ => false

def sameItems : List Json → List Json → Bool
  | [], [] => true
  | a :: as, b :: bs => same a b && sameItems as bs
  | _, _ => false

def sameMembers : List (String × Json) → List (String × Json) → Bool
  | [], [] => true
  | (key, a) :: as, (other, b) :: bs => key == other && same a b && sameMembers as bs
  | _, _ => false

end

instance : BEq Json := ⟨same⟩

instance : Inhabited Json := ⟨.null⟩

def ofReal (value : Binary64) : Json :=
  if value.isFinite then .real value else .null

def member? (key : String) : Json → Option Json
  | .object members => members.lookup key
  | _ => none

end Json

end PluginNaming.Data
