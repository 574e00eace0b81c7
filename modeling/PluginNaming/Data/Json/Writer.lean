import PluginNaming.Data.Json

set_option autoImplicit false

namespace PluginNaming.Data

open PluginNaming.Number

namespace Json

def numberStyle : Style where
  positional := fun lead => -5 ≤ lead && lead < 16
  wholeMark := ['.', '0']
  exponentMark := ['+']
  tie := .even

def escape (c : Char) : List Char :=
  if c = '"' then ['\\', '"']
  else if c = '\\' then ['\\', '\\']
  else if c = '\n' then ['\\', 'n']
  else if c = '\r' then ['\\', 'r']
  else if c = '\t' then ['\\', 't']
  else if c.toNat = 8 then ['\\', 'b']
  else if c.toNat = 12 then ['\\', 'f']
  else if c.toNat < 32 then
    ['\\', 'u', '0', '0'] ++ (if c.toNat < 16 then ['0'] else []) ++ Nat.toDigits 16 c.toNat
  else [c]

def quoted (text : String) : List Char :=
  '"' :: text.toList.flatMap escape ++ ['"']

def atom : Json → List Char
  | .null => ['n', 'u', 'l', 'l']
  | .boolean true => ['t', 'r', 'u', 'e']
  | .boolean false => ['f', 'a', 'l', 's', 'e']
  | .whole value => wholeText value
  | .real value => numberStyle.print value
  | .text value => quoted value
  | .array _ => ['[', ']']
  | .object _ => ['\x7b', '\x7d']

mutual

def compact : Json → List Char
  | .array items => '[' :: compactItems items ++ [']']
  | .object members => '\x7b' :: compactMembers members ++ ['\x7d']
  | value => atom value

def compactItems : List Json → List Char
  | [] => []
  | [last] => compact last
  | first :: rest => compact first ++ ',' :: compactItems rest

def compactMembers : List (String × Json) → List Char
  | [] => []
  | [(key, last)] => quoted key ++ ':' :: compact last
  | (key, first) :: rest => quoted key ++ ':' :: compact first ++ ',' :: compactMembers rest

end

def write (value : Json) : String :=
  String.ofList (compact value)

def newLine (depth : Nat) : List Char :=
  '\n' :: List.replicate (2 * depth) ' '

mutual

def pretty (depth : Nat) : Json → List Char
  | .array (first :: rest) =>
      '[' :: newLine (depth + 1) ++ pretty (depth + 1) first ++ prettyItems (depth + 1) rest ++
        newLine depth ++ [']']
  | .object ((key, first) :: rest) =>
      '\x7b' :: newLine (depth + 1) ++ quoted key ++ ':' :: ' ' :: pretty (depth + 1) first ++
        prettyMembers (depth + 1) rest ++ newLine depth ++ ['\x7d']
  | value => atom value

def prettyItems (depth : Nat) : List Json → List Char
  | [] => []
  | first :: rest => ',' :: newLine depth ++ pretty depth first ++ prettyItems depth rest

def prettyMembers (depth : Nat) : List (String × Json) → List Char
  | [] => []
  | (key, first) :: rest =>
      ',' :: newLine depth ++ quoted key ++ ':' :: ' ' :: pretty depth first ++
        prettyMembers depth rest

end

def writePretty (value : Json) : String :=
  String.ofList (pretty 0 value)

end Json

end PluginNaming.Data
