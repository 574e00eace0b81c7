import PluginNaming.Number.Shortest

set_option autoImplicit false

namespace PluginNaming.Number

structure Style where
  positional : Int → Bool
  wholeMark : List Char
  exponentMark : List Char
  tie : Tie

def Style.plain : Style :=
  { positional := fun _ => true, wholeMark := [], exponentMark := [], tie := .up }

def digitsOf (n : Nat) : List Char :=
  Nat.toDigits 10 n

def wholeText (value : Int) : List Char :=
  if value < 0 then '-' :: digitsOf value.natAbs else digitsOf value.natAbs

def Decimal.positional (wholeMark : List Char) (value : Decimal) : List Char :=
  let digits := digitsOf value.digits
  let places := digits.length + value.exponent
  if 0 ≤ value.exponent then digits ++ List.replicate value.exponent.toNat '0' ++ wholeMark
  else if 0 < places then digits.take places.toNat ++ '.' :: digits.drop places.toNat
  else '0' :: '.' :: List.replicate (-places).toNat '0' ++ digits

def Decimal.scientific (exponentMark : List Char) (value : Decimal) : List Char :=
  let digits := digitsOf value.digits
  let lead := digits.length + value.exponent - 1
  let fraction := if digits.length ≤ 1 then [] else '.' :: digits.drop 1
  let mark := if lead < 0 then ['-'] else exponentMark
  digits.take 1 ++ fraction ++ 'e' :: mark ++ digitsOf lead.natAbs

def Style.magnitude (style : Style) (rank : Nat) : List Char :=
  if rank = 0 then '0' :: style.wholeMark
  else
    let value := shortest style.tie rank
    if style.positional (decimalLength value.digits + value.exponent - 1) then
      value.positional style.wholeMark
    else value.scientific style.exponentMark

def Style.print (style : Style) : Binary64 → List Char
  | .undefined => ['N', 'a', 'N']
  | .infinite negative => (if negative then ['-'] else []) ++ ['i', 'n', 'f']
  | .finite negative rank => (if negative then ['-'] else []) ++ style.magnitude rank

def Binary64.text (number : Binary64) : String :=
  String.ofList (Style.plain.print number)

end PluginNaming.Number
