set_option autoImplicit false

namespace PluginNaming.Bundled

abbrev Reserve := Char → Bool

def Reserve.controls : Reserve := fun c => c.toNat < 0x20 || c.toNat == 0x7F

def Reserve.fragment : Reserve := fun c =>
  controls c || [' ', '"', '<', '>', '\x60'].contains c

def Reserve.query : Reserve := fun c =>
  controls c || [' ', '"', '#', '<', '>'].contains c

def Reserve.specialQuery : Reserve := fun c =>
  query c || c == '\''

def Reserve.path : Reserve := fun c =>
  fragment c || ['#', '?', '\x7b', '\x7d'].contains c

def Reserve.userinfo : Reserve := fun c =>
  path c || ['/', ':', ';', '=', '@', '[', '\\', ']', '^', '|'].contains c

def upperDigit (n : Nat) : Char :=
  if n < 10 then Char.ofNat ('0'.toNat + n) else Char.ofNat ('A'.toNat + (n - 10))

def encodeByte (byte : UInt8) : List Char :=
  ['%', upperDigit (byte.toNat / 16), upperDigit (byte.toNat % 16)]

def encodeChar (reserve : Reserve) (c : Char) : List Char :=
  if c.toNat < 0x80 && !reserve c then [c] else (String.utf8EncodeChar c).flatMap encodeByte

def percentEncode (reserve : Reserve) (text : List Char) : List Char :=
  text.flatMap (encodeChar reserve)

def hexValue? (c : Char) : Option Nat :=
  if c.isDigit then some (c.toNat - '0'.toNat)
  else if 'a' ≤ c ∧ c ≤ 'f' then some (c.toNat - 'a'.toNat + 10)
  else if 'A' ≤ c ∧ c ≤ 'F' then some (c.toNat - 'A'.toNat + 10)
  else none

def percentBytes : List Char → List UInt8
  | [] => []
  | '%' :: a :: b :: rest =>
      match hexValue? a, hexValue? b with
      | some high, some low => UInt8.ofNat (16 * high + low) :: percentBytes rest
      | _, _ => '%'.toUInt8 :: percentBytes (a :: b :: rest)
  | c :: rest => String.utf8EncodeChar c ++ percentBytes rest
termination_by text => text.length

def percentDecode? (text : List Char) : Option (List Char) :=
  (String.fromUTF8? (percentBytes text).toByteArray).map String.toList

end PluginNaming.Bundled
