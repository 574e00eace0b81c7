import PluginNaming.Data.Json
import PluginNaming.Number.Printed
import PluginNaming.Text.CodePoint

set_option autoImplicit false

namespace PluginNaming.Bundled.Toml

open PluginNaming.Data PluginNaming.Number PluginNaming.Text

def numberStyle : Style where
  positional := fun _ => true
  wholeMark := ['.', '0']
  exponentMark := []
  tie := .up

def escape? (multiline : Bool) (c : Char) : Option (List Char) :=
  if c = '\\' then some ['\\', '\\']
  else if c = '\n' then if multiline then none else some ['\\', 'n']
  else if c = '\t' then some ['\\', 't']
  else if c = '\r' then some ['\\', 'r']
  else if c.toNat = 8 then some ['\\', 'b']
  else if c.toNat = 12 then some ['\\', 'f']
  else if c.toNat < 32 ∨ c.toNat = 127 then some ('\\' :: 'u' :: hexDigits 4 c.toNat)
  else none

def basicText (multiline : Bool) (run : Nat) : List Char → List Char
  | [] => []
  | c :: rest =>
      if c = '"' then
        if multiline && run < 2 then '"' :: basicText multiline (run + 1) rest
        else '\\' :: '"' :: basicText multiline 0 rest
      else (escape? multiline c).getD [c] ++ basicText multiline 0 rest

def isControl (c : Char) : Bool :=
  (c.toNat < 32 && c != '\t' && c != '\n') || c.toNat == 127

def longestRun (mark : Char) (longest current : Nat) : List Char → Nat
  | [] => max longest current
  | c :: rest =>
      if c = mark then longestRun mark longest (current + 1) rest
      else longestRun mark (max longest current) 0 rest

inductive Quoting where
  | basic
  | literal
  | basicLines
  | literalLines

def Quoting.ofText (text : List Char) : Quoting :=
  let lines := text.contains '\n'
  let doubles := longestRun '"' 0 0 text
  let singles := longestRun '\'' 0 0 text
  if text.any isControl then if lines then .basicLines else .basic
  else if !text.contains '\\' && doubles = 0 && !lines then .basic
  else if singles = 0 && !lines then .literal
  else if !text.contains '\\' && doubles ≤ 2 then .basicLines
  else if singles ≤ 2 then .literalLines
  else if lines then .basicLines
  else .basic

def openingBreak (text : List Char) : List Char :=
  if text.contains '\n' then ['\n'] else []

def stringText (text : List Char) : List Char :=
  match Quoting.ofText text with
  | .basic => '"' :: basicText false 0 text ++ ['"']
  | .literal => '\'' :: text ++ ['\'']
  | .basicLines =>
      ['"', '"', '"'] ++ openingBreak text ++ basicText true 0 text ++ ['"', '"', '"']
  | .literalLines => ['\'', '\'', '\''] ++ openingBreak text ++ text ++ ['\'', '\'', '\'']

def isBareKeyPart (c : Char) : Bool := c.isAlphanum || c == '_' || c == '-'

def keyText (key : String) : List Char :=
  let text := key.toList
  let escapes := text.any fun c => isControl c || c == '\n'
  if text.all isBareKeyPart && !text.isEmpty then text
  else if text.any (fun c => c == '"' || c == '\\') && !text.contains '\'' && !escapes then
    '\'' :: text ++ ['\'']
  else '"' :: basicText false 0 text ++ ['"']

def pathText : List String → List Char
  | [] => []
  | [key] => keyText key
  | key :: rest => keyText key ++ '.' :: pathText rest

mutual

def writable : Json → Bool
  | .null => false
  | .whole value => value ≤ 9223372036854775807
  | .array items => writableItems items
  | .object members => writableMembers members
  | _ => true

def writableItems : List Json → Bool
  | [] => true
  | first :: rest => writable first && writableItems rest

def writableMembers : List (String × Json) → Bool
  | [] => true
  | (_, first) :: rest => writable first && writableMembers rest

end

mutual

def valueText : Json → List Char
  | .null => []
  | .boolean value => (if value then "true" else "false").toList
  | .whole value => wholeText value
  | .real value => numberStyle.print value
  | .text value => stringText value.toList
  | .array [] => ['[', ']']
  | .array [item] => '[' :: valueText item ++ [']']
  | .array (first :: rest) => '[' :: itemsText (first :: rest) ++ ['\n', ']']
  | .object [] => ['\x7b', '\x7d']
  | .object ((key, first) :: rest) =>
      ['\x7b', ' '] ++ keyText key ++ [' ', '=', ' '] ++ valueText first ++ pairsText rest ++
        [' ', '\x7d']

def itemsText : List Json → List Char
  | [] => []
  | first :: rest => ['\n', ' ', ' ', ' ', ' '] ++ valueText first ++ ',' :: itemsText rest

def pairsText : List (String × Json) → List Char
  | [] => []
  | (key, first) :: rest =>
      [',', ' '] ++ keyText key ++ [' ', '=', ' '] ++ valueText first ++ pairsText rest

end

def isTable : Json → Bool
  | .object _ => true
  | _ => false

def tableRows? : Json → Option (List Json)
  | .array (first :: rest) => if isTable first && rest.all isTable then some (first :: rest) else none
  | _ => none

def isPlain (value : Json) : Bool :=
  !isTable value && (tableRows? value).isNone

def bodyText (members : List (String × Json)) : List Char :=
  (members.filter fun member => isPlain member.2).flatMap fun member =>
    keyText member.1 ++ [' ', '=', ' '] ++ valueText member.2 ++ ['\n']

mutual

def sections (path : List String) : Json → List (List Char)
  | .object members =>
      let body := bodyText members
      let heading := if path.isEmpty then [] else '[' :: pathText path ++ [']', '\n']
      let own := if body.isEmpty && (path.isEmpty || !members.isEmpty) then [] else [heading ++ body]
      own ++ memberSections path members
  | _ => []

def memberSections (path : List String) : List (String × Json) → List (List Char)
  | [] => []
  | (key, .array items) :: rest =>
      (if isPlain (.array items) then [] else rowSections (path ++ [key]) items) ++
        memberSections path rest
  | (key, first) :: rest => sections (path ++ [key]) first ++ memberSections path rest

def rowSections (path : List String) : List Json → List (List Char)
  | [] => []
  | .object members :: rest =>
      (['[', '['] ++ pathText path ++ [']', ']', '\n'] ++ bodyText members) ::
        memberSections path members ++ rowSections path rest
  | _ :: rest => rowSections path rest

end

def write? (value : Json) : Option String :=
  if writable value then
    some (String.ofList (List.intercalate ['\n'] (sections [] value)))
  else none

end PluginNaming.Bundled.Toml
