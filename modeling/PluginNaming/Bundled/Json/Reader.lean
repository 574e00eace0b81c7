import PluginNaming.Bundled.Json.Scaled
import PluginNaming.Bundled.Node
import PluginNaming.Number.Numeral
import PluginNaming.Text.CodePoint
import PluginNaming.Text.Rest

set_option autoImplicit false

namespace PluginNaming.Bundled

open PluginNaming.Data PluginNaming.Number PluginNaming.Text

namespace Json

def isSpace (c : Char) : Bool :=
  c == ' ' || c == '\t' || c == '\n' || c == '\r'

def skipSpaces (text : List Char) : List Char :=
  text.dropWhile isSpace

theorem skip_spaces_length (text : List Char) : (skipSpaces text).length ≤ text.length :=
  (List.dropWhile_suffix isSpace).length_le

def afterSpaces {text rest : List Char} {c : Char} (found : skipSpaces text = c :: rest) :
    Rest text :=
  .behind (skip_spaces_length text) found

def simpleEscape? (c : Char) : Option Char :=
  if c = '"' ∨ c = '\\' ∨ c = '/' then some c
  else if c = 'b' then some '\x08'
  else if c = 'f' then some '\x0c'
  else if c = 'n' then some '\n'
  else if c = 'r' then some '\r'
  else if c = 't' then some '\t'
  else none

def joinHalves? (high low : Nat) : Option Char :=
  if 0xDC00 ≤ low ∧ low < 0xE000 then
    some (Char.ofNat (0x10000 + (high - 0xD800) * 0x400 + (low - 0xDC00)))
  else none

def readString (seen : Option (List Char)) (text : List Char) :
    Option (Option String × Rest text) :=
  match text with
  | [] => none
  | '"' :: rest => some (seen.map fun seen => String.ofList seen.reverse, Rest.tail _ rest)
  | '\\' :: 'u' :: a :: b :: c :: d :: rest =>
      match ofHex? [a, b, c, d] with
      | none => none
      | some half =>
          if half < 0xD800 ∨ 0xE000 ≤ half then
            (readString (seen.map (Char.ofNat half :: ·)) rest).map fun found =>
              (found.1, found.2.trans (by simp +arith))
          else
            match rest with
            | '\\' :: 'u' :: e :: f :: g :: h :: after =>
                match (ofHex? [e, f, g, h]).bind (joinHalves? half) with
                | some joined =>
                    (readString (seen.map (joined :: ·)) after).map fun found =>
                      (found.1, found.2.trans (by simp +arith))
                | none =>
                    (readString none ('\\' :: 'u' :: e :: f :: g :: h :: after)).map fun found =>
                      (found.1, found.2.trans (by simp +arith))
            | rest =>
                (readString none rest).map fun found => (found.1, found.2.trans (by simp +arith))
  | '\\' :: c :: rest =>
      match simpleEscape? c with
      | none => none
      | some escaped =>
          (readString (seen.map (escaped :: ·)) rest).map fun found =>
            (found.1, (found.2.cons _).cons _)
  | c :: rest =>
      if c.toNat < 32 ∨ c = '\\' then none
      else (readString (seen.map (c :: ·)) rest).map fun found => (found.1, found.2.cons _)

def properWhole (digits : List Char) : Bool :=
  digits.head? != some '0' || digits.length == 1

def brokenNumber (rest : List Char) : Bool :=
  match rest with
  | c :: _ => c == '.' || c == 'e' || c == 'E' || c.isDigit
  | [] => false

def greatestWhole : Nat := 18446744073709551615

def gather (total : Nat) : List Char → Nat × List Char
  | [] => (total, [])
  | c :: rest =>
      let more := 10 * total + (c.toNat - '0'.toNat)
      if more ≤ greatestWhole then gather more rest else (total, c :: rest)

-- Digits that would make the whole number too great are left out, and count only before the point.
def realOf? (numeral : Numeral) : Option Binary64 :=
  let (kept, excess) := gather 0 numeral.whole
  let (digits, left) := gather kept numeral.fraction
  let places : Int := numeral.fraction.length - left.length
  (scaled? (nearestRank digits 1) (numeral.exponent + excess.length - places)).map
    (.ofRank numeral.negative)

def numberOf? (whole : Bool) (numeral : Numeral) : Option Json :=
  let (size, excess) := gather 0 numeral.whole
  if whole && excess.isEmpty && !numeral.negative then some (.whole size)
  else if whole && excess.isEmpty && 0 < size && size ≤ 9223372036854775808 then some (.whole (-size))
  else (realOf? numeral).map .real

def readNumber (text : List Char) : Option (Node × Rest text) :=
  if text.head? = some '+' then none
  else
    match found : Numeral.take? text with
    | none => none
    | some (numeral, rest) =>
        if !properWhole numeral.whole || brokenNumber rest then none
        else
          let whole := !brokenNumber (dropDigits (takeSign text).2)
          some (.ofValue (numberOf? whole numeral), ⟨rest, Numeral.take_shorter found⟩)

def dropLetters? : List Char → (rest : List Char) → Option (Tail rest)
  | [], rest => some (.whole rest)
  | _ :: _, [] => none
  | letter :: letters, c :: rest =>
      if c = letter then (dropLetters? letters rest).map fun tail => (tail.cons c).toTail else none

def readWord (first : Char) (letters : List Char) (value : Json) (text : List Char) :
    Option (Node × Rest text) :=
  match text with
  | [] => none
  | c :: rest =>
      if c = first then (dropLetters? letters rest).map fun tail => (.ofValue (some value), tail.cons c)
      else none

def textNode : Option String → Node
  | some word => .ofText word
  | none => .ofValue none

mutual

def readNode (text : List Char) : Option (Node × Rest text) :=
  match text with
  | '"' :: rest =>
      (readString (some []) rest).map fun found => (textNode found.1, found.2.cons _)
  | '[' :: rest =>
      match after : skipSpaces rest with
      | ']' :: _ => some (.items true [], (afterSpaces after).cons _)
      | _ =>
          (readItems [] (skipSpaces rest)).map fun found =>
            (.items true found.1, (found.2.trans (skip_spaces_length rest)).cons _)
  | '\x7b' :: rest =>
      match after : skipSpaces rest with
      | '\x7d' :: _ => some (.members true [], (afterSpaces after).cons _)
      | _ =>
          (readMembers [] (skipSpaces rest)).map fun found =>
            (.members true found.1, (found.2.trans (skip_spaces_length rest)).cons _)
  | other =>
      readWord 'n' ['u', 'l', 'l'] .null other <|>
        readWord 't' ['r', 'u', 'e'] (.boolean true) other <|>
        readWord 'f' ['a', 'l', 's', 'e'] (.boolean false) other <|> readNumber other
termination_by (text.length, 0)
decreasing_by
  all_goals
    have := skip_spaces_length rest
    simp [Prod.lex_def]
    omega

def readItems (seen : List Node) (text : List Char) : Option (List Node × Rest text) :=
  match readNode text with
  | none => none
  | some (first, rest) =>
      match after : skipSpaces rest.1 with
      | ']' :: _ => some ((first :: seen).reverse, rest.andThen (afterSpaces after))
      | ',' :: more =>
          (readItems (first :: seen) (skipSpaces more)).map fun found =>
            (found.1, rest.andThen
              ((afterSpaces after).andThen (found.2.trans (skip_spaces_length more))))
      | _ => none
termination_by (text.length, 1)
decreasing_by
  · simp [Prod.lex_def]
  · have first := skip_spaces_length rest.1
    have second := skip_spaces_length more
    have shorter := rest.2
    rw [after, List.length_cons] at first
    simp [Prod.lex_def]
    omega

def readMembers (seen : List (Node × Node)) (text : List Char) :
    Option (List (Node × Node) × Rest text) :=
  match text with
  | '"' :: keyText =>
      match readString (some []) keyText with
      | none => none
      | some (key, afterKey) =>
          match colon : skipSpaces afterKey.1 with
          | ':' :: valueText =>
              match readNode (skipSpaces valueText) with
              | none => none
              | some (first, rest) =>
                  let whole : Rest ('"' :: keyText) := (afterKey.andThen
                    ((afterSpaces colon).andThen (rest.trans (skip_spaces_length valueText)))).cons _
                  match after : skipSpaces rest.1 with
                  | '\x7d' :: _ =>
                      some (((textNode key, first) :: seen).reverse,
                        whole.andThen (afterSpaces after))
                  | ',' :: more =>
                      (readMembers ((textNode key, first) :: seen) (skipSpaces more)).map fun found =>
                        (found.1, whole.andThen
                          ((afterSpaces after).andThen (found.2.trans (skip_spaces_length more))))
                  | _ => none
          | _ => none
  | _ => none
termination_by (text.length, 1)
decreasing_by
  · have first := skip_spaces_length afterKey.1
    have second := skip_spaces_length valueText
    have shorter := afterKey.2
    rw [colon, List.length_cons] at first
    simp [Prod.lex_def]
    omega
  · have first := skip_spaces_length afterKey.1
    have second := skip_spaces_length valueText
    have third := skip_spaces_length rest.1
    have fourth := skip_spaces_length more
    have shorter := afterKey.2
    have shorterRest := rest.2
    rw [colon, List.length_cons] at first
    rw [after, List.length_cons] at third
    simp [Prod.lex_def]
    omega

end

def levels : Nat := 127

def document? (text : String) : Option Document :=
  match readNode (skipSpaces text.toList) with
  | some (node, rest) =>
      if (skipSpaces rest.1).isEmpty then some (.plain node levels .exactly) else none
  | none => none

def read? (text : String) : Option Json := do
  (← document? text).read? fun document node => document.value levels node

end Json

end PluginNaming.Bundled
