import PluginNaming.Bundled.Line
import PluginNaming.Bundled.Toml.Moment
import PluginNaming.Text.CodePoint
import PluginNaming.Text.Rest

set_option autoImplicit false

namespace PluginNaming.Bundled.Toml

open PluginNaming.Data PluginNaming.Number PluginNaming.Text

def isSpace (c : Char) : Bool := isPadding c || c == '\n'

def simpleEscape? (c : Char) : Option Char :=
  if c = 'b' then some '\x08'
  else if c = 't' then some '\t'
  else if c = 'n' then some '\n'
  else if c = 'f' then some '\x0c'
  else if c = 'r' then some '\r'
  else if c = '"' ∨ c = '\\' then some c
  else none

def takeEscape? (text : List Char) : Option (Char × Rest text) :=
  match text with
  | [] => none
  | c :: rest =>
      let width := if c = 'u' then 4 else if c = 'U' then 8 else 0
      if width = 0 then (simpleEscape? c).map fun escaped => (escaped, Rest.tail _ rest)
      else if (rest.take width).length = width then
        (charOfHex? (rest.take width)).map fun escaped =>
          (escaped, Rest.drop _ rest width)
      else none

def closing? (mark : Char) (text : List Char) : Option (List Char × Rest text) :=
  match text with
  | a :: b :: c :: rest =>
      if a = mark ∧ b = mark ∧ c = mark then
        let marks := (rest.takeWhile (· == mark)).take 2
        some (marks, ((Rest.drop c rest marks.length).cons b).cons a)
      else none
  | _ => none

def readBasic (multiline : Bool) (seen text : List Char) : Option (String × Rest text) :=
  match text with
  | [] => none
  | '\\' :: rest =>
      if multiline && (dropPadding rest).head? == some '\n' then
        (readBasic multiline seen (rest.dropWhile isSpace)).map fun found =>
          (found.1, found.2.trans (by
            have := (List.dropWhile_suffix isSpace (l := rest)).length_le
            simp only [List.length_cons]; omega))
      else
        match takeEscape? rest with
        | none => none
        | some (escaped, after) =>
            (readBasic multiline (escaped :: seen) after.1).map fun found =>
              (found.1, (after.andThen found.2).cons _)
  | c :: rest =>
      if c = '"' ∧ multiline = false then
        some (String.ofList seen.reverse, Rest.tail _ rest)
      else if c = '\n' ∧ multiline = false then none
      else
        match (if c = '"' then closing? '"' (c :: rest) else none) with
        | some (marks, after) => some (String.ofList (seen.reverse ++ marks), after)
        | none =>
            (readBasic multiline (c :: seen) rest).map fun found =>
              (found.1, found.2.cons _)
termination_by text.length
decreasing_by
  · have := (List.dropWhile_suffix isSpace (l := rest)).length_le
    simp only [List.length_cons]
    omega
  · have := after.2
    simp only [List.length_cons]
    omega
  · simp

def readLiteral (multiline : Bool) (seen text : List Char) : Option (String × Rest text) :=
  match text with
  | [] => none
  | c :: rest =>
      if c = '\'' ∧ multiline = false then
        some (String.ofList seen.reverse, Rest.tail _ rest)
      else if c = '\n' ∧ multiline = false then none
      else
        match (if c = '\'' then closing? '\'' (c :: rest) else none) with
        | some (marks, after) => some (String.ofList (seen.reverse ++ marks), after)
        | none =>
            (readLiteral multiline (c :: seen) rest).map fun found =>
              (found.1, found.2.cons _)

def dropFirstLineEnd (text : List Char) : List Char :=
  match text with
  | '\n' :: rest => rest
  | text => text

theorem drop_first_line_end_length (text : List Char) :
    (dropFirstLineEnd text).length ≤ text.length := by
  unfold dropFirstLineEnd
  split <;> simp

def readLineString (text : List Char) : Option (String × Rest text) :=
  match text with
  | '"' :: rest => (readBasic false [] rest).map fun found => (found.1, found.2.cons _)
  | '\'' :: rest => (readLiteral false [] rest).map fun found => (found.1, found.2.cons _)
  | _ => none

def readString (text : List Char) : Option (String × Rest text) :=
  match text with
  | '"' :: '"' :: '"' :: rest =>
      (readBasic true [] (dropFirstLineEnd rest)).map fun found =>
        (found.1, found.2.trans (by
          have := drop_first_line_end_length rest; simp only [List.length_cons]; omega))
  | '\'' :: '\'' :: '\'' :: rest =>
      (readLiteral true [] (dropFirstLineEnd rest)).map fun found =>
        (found.1, found.2.trans (by
          have := drop_first_line_end_length rest; simp only [List.length_cons]; omega))
  | text => readLineString text

def grouped? (digit : Char → Bool) : List Char → Option (List Char)
  | [] => none
  | [c] => if digit c then some [c] else none
  | c :: '_' :: rest => if digit c then (grouped? digit rest).map (c :: ·) else none
  | c :: rest => if digit c then (grouped? digit rest).map (c :: ·) else none

def wholeDigits? (text : List Char) : Option (List Char) := do
  let digits ← grouped? Char.isDigit text
  if digits.head? = some '0' ∧ digits.length ≠ 1 then none else some digits

def inRange (value : Int) : Option Int :=
  if -9223372036854775808 ≤ value ∧ value ≤ 9223372036854775807 then some value else none

def ofRadix? (radix : Nat) (text : List Char) : Option Int := do
  let digits ← grouped? (fun c => ((hexDigit? c).map (decide <| · < radix)).getD false) text
  let value := digits.foldl (fun total c => radix * total + (hexDigit? c).getD 0) 0
  inRange value

def whole? (word : List Char) : Option Int :=
  match word with
  | '0' :: 'x' :: rest => ofRadix? 16 rest
  | '0' :: 'o' :: rest => ofRadix? 8 rest
  | '0' :: 'b' :: rest => ofRadix? 2 rest
  | word => do
      let signed := takeSign word
      let size : Int := ofDigits (← wholeDigits? signed.2)
      inRange (if signed.1 then -size else size)

def isGrouped (c : Char) : Bool := c.isDigit || c == '_'

def exponent? (text : List Char) : Option Int :=
  match text with
  | [] => some 0
  | mark :: rest => do
      let signed := takeSign rest
      let size : Int := ofDigits (← grouped? Char.isDigit signed.2)
      if mark = 'e' ∨ mark = 'E' then some (if signed.1 then -size else size) else none

def real? (word : List Char) : Option Binary64 := do
  let signed := takeSign word
  let whole ← wholeDigits? (signed.2.takeWhile isGrouped)
  let rest := signed.2.dropWhile isGrouped
  let numeral (fraction : List Char) (exponent : Int) : Numeral :=
    { negative := signed.1, whole, fraction, exponent }
  let value ←
    match rest with
    | '.' :: after => do
        let fraction ← grouped? Char.isDigit (after.takeWhile isGrouped)
        pure (numeral fraction (← exponent? (after.dropWhile isGrouped))).value
    | [] => none
    | after => do pure (numeral [] (← exponent? after)).value
  if value = .infinite false then none else some value

def valueOfWord? (word : List Char) : Option Json :=
  let signed := takeSign word
  if word = "true".toList then some (.boolean true)
  else if word = "false".toList then some (.boolean false)
  else if signed.2 = "inf".toList then some (.ofReal (.infinite signed.1))
  else if signed.2 = "nan".toList then some (.ofReal .undefined)
  else (whole? word).map .whole <|> (real? word).map .ofReal

def isWordPart (c : Char) : Bool :=
  c.isAlphanum || c == '+' || c == '-' || c == '.' || c == '_' || c == ':'

def readWord (text : List Char) : Option (Node × Rest text) :=
  match text with
  | [] => none
  | c :: rest =>
      if isWordPart c then
        (valueOfWord? (c :: rest.takeWhile isWordPart)).map fun value =>
          (.ofValue (some value), Rest.past c isWordPart rest)
      else none

def readScalar (text : List Char) : Option (Node × Rest text) :=
  match readString text, takeMoment? text with
  | some (value, rest), _ => some (.ofText value, rest)
  | none, some (moment, rest) => some (moment.node, rest)
  | none, none => readWord text

end PluginNaming.Bundled.Toml
