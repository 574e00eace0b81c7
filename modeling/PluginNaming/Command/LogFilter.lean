import PluginNaming.Number.Numeral
import PluginNaming.Pattern
import PluginNaming.Text.Pieces

set_option autoImplicit false

namespace PluginNaming.LogFilter

open PluginNaming.Number PluginNaming.Text

inductive Flaw where
  | refused
  | torn
deriving DecidableEq

def levels : List String := ["off", "error", "warn", "info", "debug", "trace"]

def isLevel (text : List Char) : Bool :=
  let digits := if text.head? = some '+' then text.drop 1 else text
  levels.contains (String.ofList (text.map Char.toLower)) ||
    (!digits.isEmpty && digits.all Char.isDigit && ofDigits digits < levels.length)

def startsTarget (c : Char) : Bool :=
  c == '-' || c == ':' || c == '_' || isLetterOrNumber c

def isValue (text : List Char) : Bool :=
  (Binary64.read? text).isSome || Pattern.isPattern text

def isField (text : List Char) : Bool :=
  match pieces (· == '=') text with
  | _ :: value :: _ => isValue value
  | _ => !text.isEmpty

def dropBytes? : Nat → List Char → Option (List Char)
  | 0, text => some text
  | _ + 1, [] => none
  | count + 1, c :: rest =>
      if c.utf8Size ≤ count + 1 then dropBytes? (count + 1 - c.utf8Size) rest else none

def takeBytes? : Nat → List Char → Option (List Char)
  | 0, _ => some []
  | _ + 1, [] => none
  | count + 1, c :: rest =>
      if c.utf8Size ≤ count + 1 then (takeBytes? (count + 1 - c.utf8Size) rest).map (c :: ·)
      else none

def orTorn {α : Type} : Option α → Except Flaw α
  | some part => .ok part
  | none => .error .torn

def since (text : List Char) (first : Nat) : Except Flaw (List Char) :=
  orTorn (dropBytes? first text)

def cut (text : List Char) (first last : Nat) : Except Flaw (List Char) := do
  orTorn (takeBytes? (last - first) (← since text first))

inductive Part where
  | start
  | target
  | span (first : Nat)
  | field (first : Nat)
  | fields
  | closed
  | level (first : Nat)

namespace Part

def next (text : List Char) (place : Nat) (part : Part) (c : Char) : Except Flaw Part :=
  match part with
  | .start =>
      if c = '[' then .ok (.span (place + 1))
      else if startsTarget c then .ok .target
      else .error .refused
  | .target => do
      if c = '=' ∨ c = '[' then
        let _ ← cut text 0 place
        return if c = '=' then .level (place + 1) else .span (place + 1)
      else return .target
  | .span first => do
      if c = ']' ∨ c = '\x7b' then
        let _ ← cut text first place
        return if c = ']' then .closed else .field (place + 1)
      else return .span first
  | .field first => do
      if c = '\x7d' then
        if isField (← cut text first place) then return .fields else throw .refused
      else return .field first
  | .fields => if c = ']' then .ok .closed else .error .refused
  | .closed => if c = '=' then .ok (.level (place + 1)) else .error .refused
  | .level first => .ok (.level first)

def finish (text : List Char) : Part → Except Flaw Unit
  | .target | .closed => .ok ()
  | .level first => do
      let level ← since text first
      if level.isEmpty || isLevel level then return () else throw .refused
  | _ => .error .refused

def scan (text : List Char) (place : Nat) (part : Part) : List Char → Except Flaw Unit
  | [] => part.finish text
  | c :: rest => do scan text (place + c.utf8Size) (← part.next text place c) rest

end Part

def trim (text : List Char) : List Char :=
  (skipBlanks (skipBlanks text).reverse).reverse

def checkDirective (text : List Char) : Except Flaw Unit :=
  Part.start.scan text 0 (trim text)

def check (text : String) : Except Flaw Unit :=
  ((pieces (· == ',') text.toList).filter fun piece => !piece.isEmpty).forM checkDirective

end PluginNaming.LogFilter
