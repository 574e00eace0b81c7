import PluginNaming.Number.Printed
import PluginNaming.Token

set_option autoImplicit false

namespace PluginNaming

open Number

structure Selector (kind : NameKind) where
  name : Name kind
  text : String
deriving DecidableEq

inductive Parameter (kind : NameKind) where
  | number (value : Binary64)
  | text (value : String)
  | selector (value : Selector kind)
  | reference (name : Name .environment)

namespace Selector

variable {kind : NameKind}

def print (selector : Selector kind) : String :=
  if selector.text = "" then selector.name.text else selector.name.text ++ " " ++ selector.text

def parse (kind : NameKind) (text : String) : Except Fault (Selector kind) :=
  match takeName kind text.toList with
  | .failed stop => .error (stop.fault text)
  | .absent => .error (.pointing text 0)
  | .token name [] => .ok { name, text := "" }
  | .token name (c :: rest) =>
      if c = ' ' then .ok { name, text := String.ofList rest }
      else if c = '(' then .ok { name, text := String.ofList (c :: rest) }
      else .error (.pointing text (placeOf text (c :: rest)))

def escape (c : Char) : List Char :=
  if c = '"' then ['\\', '"']
  else if c = '\\' then ['\\', '\\']
  else if c = '\n' then ['\\', 'n']
  else if c = '\r' then ['\\', 'r']
  else if c = '\t' then ['\\', 't']
  else if c = '\x00' then ['\\', '0']
  else [c]

-- A selector is written without a space after its name.
def printParameter : Parameter kind → Except Fault (List Char)
  | .number value =>
      if value.isFinite then .ok (Style.plain.print value) else .error (.unsupportedValue value.text)
  | .text value => .ok ('"' :: value.toList.flatMap escape ++ ['"'])
  | .selector value => .ok (value.name.text.toList ++ value.text.toList)
  | .reference name => .ok ('$' :: name.text.toList)

def setParameters (selector : Selector kind) (parameters : List (Parameter kind)) :
    Except Fault (Selector kind) := do
  let written ← parameters.mapM printParameter
  let text := if parameters.isEmpty then [] else '(' :: [',', ' '].intercalate written ++ [')']
  return { selector with text := String.ofList text }

instance : Ord (Selector kind) :=
  ⟨fun a b => (compare a.name b.name).then (compare a.text b.text)⟩

instance : Std.TransOrd (Selector kind) :=
  inferInstanceAs (Std.TransCmp (compareLex (compareOn Selector.name) (compareOn Selector.text)))

instance : Std.LawfulEqOrd (Selector kind) where
  compare_self {a} := by
    show (compare a.name a.name).then (compare a.text a.text) = .eq
    simp
  eq_of_compare {a b} same := by
    have both : compare a.name b.name = .eq ∧ compare a.text b.text = .eq :=
      Ordering.then_eq_eq.mp same
    have name := Std.LawfulEqOrd.eq_of_compare both.1
    have text := Std.LawfulEqOrd.eq_of_compare both.2
    cases a
    cases b
    cases name
    cases text
    rfl

end Selector

end PluginNaming
