import PluginNaming.Text.Quoted
import PluginNaming.Url.Library

set_option autoImplicit false

namespace PluginNaming

open Text

structure UrlFault where
  defect : Url.Defect
  place : Option Nat
deriving DecidableEq

inductive AliasDefect where
  | urlWithoutSelector
  | parametersGivenTwice (declared : String)
deriving DecidableEq

inductive Fault where
  | invalidCharacter (text : String) (place : Nat) (character : Char)
  | endOfText (text expected : String)
  | nameLength (kind text : String) (length least most : Nat)
  | invalidUrl (text : String) (fault : UrlFault)
  | invalidAlias (name : String) (defect : AliasDefect)
  | duplicateName (kind name : String)
  | duplicateUrl (url : String)
  | duplicateTarget (target first second : String)
  | aliasConflict (name target : String)
  | unknownName (kind name : String)
  | unknownVariable (name : String)
  | unsupportedValue (value : String)
  | provider (message : String)
deriving DecidableEq

def UrlFault.reason (fault : UrlFault) : String :=
  match fault.place with
  | none => fault.defect.reason
  | some place => s!"{fault.defect.reason} at {place}"

def AliasDefect.reason : AliasDefect → String
  | .urlWithoutSelector => "url without selector"
  | .parametersGivenTwice declared => s!"alias already has parameters {declared}"

namespace Fault

def message : Fault → String
  | .invalidCharacter text place character =>
      s!"Invalid character {quoteChar character} at {place} in {quote text}"
  | .endOfText text expected => s!"End of text, expected {expected} in {quote text}"
  | .nameLength kind text length least most =>
      s!"Invalid {kind} length {length} in {quote text}, expected {least}..={most}"
  | .invalidUrl text fault => s!"Invalid url {quote text}: {fault.reason}"
  | .invalidAlias name defect => s!"Invalid alias {name}: {defect.reason}"
  | .duplicateName kind name => s!"Duplicate {kind} {name}"
  | .duplicateUrl url => s!"Duplicate url {url}"
  | .duplicateTarget target first second =>
      s!"Aliases {first} and {second} both refer to {target}"
  | .aliasConflict name target =>
      s!"Alias {name} refers to {target} which is also declared as a name"
  | .unknownName _ name => s!"Unknown {name}"
  | .unknownVariable name => s!"Unknown environment value {name}"
  | .unsupportedValue value => s!"Unsupported value {value}"
  | .provider text => text

def pointing (text : String) (place : Nat) : Fault :=
  match text.toList[place]? with
  | some character => .invalidCharacter text place character
  | none => .endOfText text "more text"

def relocate (text : String) (offset : Nat) : Fault → Fault
  | .invalidCharacter _ place character => .invalidCharacter text (place + offset) character
  | .endOfText _ expected => .endOfText text expected
  | fault => fault

def subject? : Fault → Option String
  | .invalidCharacter text _ _ => some text
  | .endOfText text _ => some text
  | _ => none

end Fault

end PluginNaming
