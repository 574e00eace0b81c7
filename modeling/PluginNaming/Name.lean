import PluginNaming.Fault

set_option autoImplicit false

namespace PluginNaming

structure NameKind where
  label : String
  typeLabel : String
  initial : Char → Bool
  part : Char → Bool
  least : Nat
  most : Nat

namespace NameKind

def isPluginPart (c : Char) : Bool := c.isAlphanum || c == '-'

def plugin : NameKind where
  label := "plugin"
  typeLabel := "PluginName"
  initial := Char.isAlpha
  part := isPluginPart
  least := 1
  most := 255

def provider : NameKind where
  label := "provider"
  typeLabel := "ProviderName"
  initial := Char.isAlpha
  part := isPluginPart
  least := 1
  most := 255

def environment : NameKind where
  label := "environment value"
  typeLabel := "EnvironmentValueName"
  initial := Char.isAlpha
  part := fun c => isPluginPart c || c == '_' || c == '.'
  least := 1
  most := 255

def spells (kind : NameKind) : List Char → Bool
  | [] => true
  | first :: rest => kind.initial first && rest.all kind.part

def fits (kind : NameKind) (length : Nat) : Bool :=
  kind.least ≤ length && length ≤ kind.most

def admits (kind : NameKind) (text : List Char) : Bool :=
  kind.spells text && kind.fits text.length

def misspelling? (kind : NameKind) : List Char → Option Nat
  | [] => none
  | first :: rest =>
      if kind.initial first then (rest.findIdx? fun c => !kind.part c).map (· + 1) else some 0

def lengthFault (kind : NameKind) (text : List Char) : Fault :=
  .nameLength kind.label (String.ofList text) text.length kind.least kind.most

end NameKind

structure Name (kind : NameKind) where
  text : String
  valid : kind.admits text.toList = true
deriving DecidableEq

namespace Name

variable {kind : NameKind}

def parse (kind : NameKind) (text : String) : Except Fault (Name kind) :=
  if valid : kind.admits text.toList = true then .ok ⟨text, valid⟩
  else
    match kind.misspelling? text.toList with
    | some place => .error (.pointing text place)
    | none => .error (kind.lengthFault text.toList)

instance : Ord (Name kind) := ⟨fun a b => compare a.text b.text⟩

instance : ToString (Name kind) := ⟨Name.text⟩

theorem eq_of_text (a b : Name kind) (same : a.text = b.text) : a = b := by
  cases a
  cases b
  cases same
  rfl

instance : Std.TransOrd (Name kind) :=
  inferInstanceAs (Std.TransCmp (compareOn Name.text))

instance : Std.LawfulEqOrd (Name kind) where
  compare_self := Std.ReflOrd.compare_self
  eq_of_compare same := eq_of_text _ _ (Std.LawfulEqOrd.eq_of_compare same)

end Name

end PluginNaming
