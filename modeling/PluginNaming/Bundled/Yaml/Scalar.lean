import PluginNaming.Bundled.Node
import PluginNaming.Number.Numeral
import PluginNaming.Text.CodePoint

set_option autoImplicit false

namespace PluginNaming.Bundled.Yaml

open PluginNaming.Data PluginNaming.Number PluginNaming.Text

def isNullWord (word : String) : Bool :=
  ["~", "null", "Null", "NULL"].contains word

def boolean? (word : String) : Option Bool :=
  if ["true", "True", "TRUE"].contains word then some true
  else if ["false", "False", "FALSE"].contains word then some false
  else none

def isSign (c : Char) : Bool := c == '+' || c == '-'

def isPadded (word : List Char) : Bool :=
  let digits := if (word.head?.map isSign).getD false then word.drop 1 else word
  digits.head? == some '0' && digits.length != 1 && digits.all Char.isDigit

def ofRadix? (radix : Nat) (digits : List Char) : Option Nat :=
  if digits.isEmpty then none
  else
    digits.foldlM (fun total c => do
      let digit ← hexDigit? c
      if digit < radix then some (radix * total + digit) else none) 0

def size? (word : List Char) : Option Nat :=
  match word with
  | '0' :: 'x' :: digits => ofRadix? 16 digits
  | '0' :: 'o' :: digits => ofRadix? 8 digits
  | '0' :: 'b' :: digits => ofRadix? 2 digits
  | digits => if isPadded digits then none else ofRadix? 10 digits

def whole? (word : List Char) : Option Int :=
  let signed := takeSign word
  (size? signed.2).map fun size => if signed.1 then -(size : Int) else size

def real? (word : List Char) : Option Binary64 :=
  let signed := takeSign word
  if [".inf", ".Inf", ".INF"].contains (String.ofList signed.2) then some (.infinite signed.1)
  else if [".nan", ".NaN", ".NAN"].contains (String.ofList word) then some .undefined
  else
    match Binary64.read? word with
    | some value => if value.isFinite then some value else none
    | none => none

def isKept (value : Int) : Bool :=
  -9223372036854775808 ≤ value && value ≤ 18446744073709551615

-- A whole number is refused if it is too large for 64 bits and not for 128; beyond these it is read like
-- any other number.
def meaning? (word : String) : Option Json :=
  if word.isEmpty || isNullWord word then some .null
  else
    match boolean? word with
    | some value => some (.boolean value)
    | none =>
        let real := if isPadded word.toList then none else (real? word.toList).map .ofReal
        match whole? word.toList with
        | none => some (real.getD (.text word))
        | some value =>
            if isKept value then some (.whole value)
            else if -170141183460469231731687303715884105728 ≤ value ∧
                value ≤ 340282366920938463463374607431768211455 then none
            else some (real.getD (.text word))

def coreTag (name : String) : String := "tag:yaml.org,2002:" ++ name

def isLocal (tag : Option String) : Bool :=
  (tag.map fun tag => tag.front? == some '!').getD false

def taggedMeaning? (tag word : String) : Option Json :=
  if isLocal (some tag) then none
  else if tag = coreTag "bool" then (boolean? word).map .boolean
  else if tag = coreTag "int" then ((whole? word.toList).filter isKept).map .whole
  else if tag = coreTag "float" then (real? word.toList).map .ofReal
  else if tag = coreTag "null" then if isNullWord word then some .null else none
  else some (.text word)

def absence? (tag : Option String) (plain : Bool) (word : String) : Option Bool :=
  match plain, tag with
  | false, _ => some false
  | true, none => some (word.isEmpty || isNullWord word)
  | true, some tag =>
      if tag = coreTag "null" then if isNullWord word then some true else none else some false

def scalarNode (tag : Option String) (plain : Bool) (word : String) : Node :=
  let value :=
    match tag with
    | none => if plain then meaning? word else some (.text word)
    | some tag => taggedMeaning? tag word
  .scalar { text := some word, value, absent := absence? tag plain word, blank := plain && word.isEmpty }

end PluginNaming.Bundled.Yaml
