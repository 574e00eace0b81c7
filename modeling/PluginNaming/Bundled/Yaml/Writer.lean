import PluginNaming.Bundled.Yaml.Glyph
import PluginNaming.Bundled.Yaml.Scalar
import PluginNaming.Number.Printed

set_option autoImplicit false

namespace PluginNaming.Bundled.Yaml

open PluginNaming.Data PluginNaming.Number PluginNaming.Text

def numberStyle : Style where
  positional := fun lead => -5 ≤ lead && lead < 16
  wholeMark := ['.', '0']
  exponentMark := []
  tie := .even

def isPrintable (c : Char) : Bool :=
  c == '\n' || (0x20 ≤ c.toNat && c.toNat ≤ 0x7E) ||
    (0xA0 ≤ c.toNat && c.toNat < 0xFFFE && c.toNat != 0xFEFF) || 0x10000 ≤ c.toNat

def breaksLine (c : Char) : Bool := isLineEnd c || c == '\r' || c == '\u0085'

def isSpace (c : Char) : Bool := c == ' '

def hasPair (first second : Char → Bool) : List Char → Bool
  | a :: b :: rest => (first a && second b) || hasPair first second (b :: rest)
  | _ => false

def beginsMarked : List Char → Bool
  | [] => false
  | c :: rest =>
      if c == '-' || c == '?' || c == ':' then endsWord (rest.headD endMark)
      else "#,[]\x7b\x7d&*!|>'\"%@\x60".toList.contains c

def isMarkedInside : List Char → Bool
  | first :: second :: rest =>
      (second == ':' && endsWord (rest.headD endMark)) || (second == '#' && endsWord first) ||
        isMarkedInside (second :: rest)
  | _ => false

def beginsDocumentMark (text : List Char) : Bool :=
  ['-', '-', '-'].isPrefixOf text || ['.', '.', '.'].isPrefixOf text

def isAmbiguous (text : String) : Bool :=
  match meaning? text with
  | some (.text _) => isPadded text.toList
  | some _ => true
  | none => true

def isPlain (text : List Char) : Bool :=
  !text.any isLineEnd && text.head? != some ' ' && text.getLast? != some ' ' &&
    !beginsMarked text && !isMarkedInside text && !beginsDocumentMark text

def isQuotable (text : List Char) : Bool :=
  text.all isPrintable && !hasPair isSpace isLineEnd text && !hasPair isLineEnd isSpace text

def isLiteral (text : List Char) : Bool :=
  text.all isPrintable && !hasPair isSpace isLineEnd text && text.getLast? != some ' '

def escapes : List (Char × Char) :=
  [('\x00', '0'), ('\x07', 'a'), ('\x08', 'b'), ('\t', 't'), ('\n', 'n'), ('\x0b', 'v'),
    ('\x0c', 'f'), ('\r', 'r'), ('\x1b', 'e'), ('"', '"'), ('\\', '\\'), ('\u0085', 'N'),
    ('\u2028', 'L'), ('\u2029', 'P')]

def escape (c : Char) : List Char :=
  match escapes.lookup c with
  | some letter => ['\\', letter]
  | none =>
      if isPrintable c then [c]
      else if c.toNat ≤ 0xFF then '\\' :: 'x' :: hexDigits 2 c.toNat
      else '\\' :: 'u' :: hexDigits 4 c.toNat

def doubleQuoted (text : List Char) : List Char :=
  '"' :: text.flatMap escape ++ ['"']

def spaces (indent : Nat) : List Char := List.replicate indent ' '

def newLine (indent : Nat) : List Char := '\n' :: spaces indent

def singleQuotedFrom (indent : Nat) (lineStart : Bool) : List Char → List Char
  | [] => (if lineStart then spaces indent else []) ++ ['\'']
  | c :: rest =>
      if isLineEnd c then c :: singleQuotedFrom indent true rest
      else
        (if lineStart then spaces indent else []) ++ (if c = '\'' then ['\'', '\''] else [c]) ++
          singleQuotedFrom indent false rest

def singleQuoted (indent : Nat) (text : List Char) : List Char :=
  '\'' :: singleQuotedFrom indent false text

def literalHeading (text : List Char) : List Char :=
  let start :=
    if (text.head?.map fun c => isSpace c || isLineEnd c).getD false then ['2'] else []
  let isEnd := fun (last : Option Char) => (last.map isLineEnd).getD false
  let chomp :=
    if !isEnd text.getLast? then ['-']
    else if text.dropLast.isEmpty || isEnd text.dropLast.getLast? then ['+']
    else []
  '|' :: start ++ chomp

def literalLines (indent : Nat) (lineStart : Bool) : List Char → List Char
  | [] => []
  | c :: rest =>
      if isLineEnd c then c :: literalLines indent true rest
      else (if lineStart then spaces indent else []) ++ c :: literalLines indent false rest

def textIn (indent : Nat) (text : String) : List Char :=
  let letters := text.toList
  if letters.contains '\n' then
    if isLiteral letters then
      literalHeading letters ++ '\n' :: literalLines (indent + 2) true letters
    else doubleQuoted letters
  else if !isQuotable letters then doubleQuoted letters
  else if isAmbiguous text || !isPlain letters then singleQuoted (indent + 2) letters
  else letters

def endLine (text : List Char) : List Char :=
  if (text.getLast?.map isLineEnd).getD false then text else text ++ ['\n']

def longestSimpleKey : Nat := 128

def isSimpleKey (key : String) : Bool :=
  !key.toList.any breaksLine && key.utf8ByteSize ≤ longestSimpleKey

def keyText (indent : Nat) (key : String) : List Char :=
  if isSimpleKey key then textIn indent key ++ [':']
  else '?' :: ' ' :: endLine (textIn indent key) ++ spaces indent ++ [':', ' ']

def atomText (indent : Nat) : Json → List Char
  | .null => ['n', 'u', 'l', 'l']
  | .boolean value => (if value then "true" else "false").toList
  | .whole value => wholeText value
  | .real value => numberStyle.print value
  | .text value => textIn indent value
  | .array _ => ['[', ']']
  | .object _ => ['\x7b', '\x7d']

mutual

def afterKey (indent : Nat) : Json → List Char
  | .array (first :: rest) => newLine indent ++ itemsText indent (first :: rest)
  | .object (first :: rest) => newLine (indent + 2) ++ membersText (indent + 2) (first :: rest)
  | value => ' ' :: endLine (atomText indent value)

def afterMark (indent : Nat) : Json → List Char
  | .array (first :: rest) => itemsText (indent + 2) (first :: rest)
  | .object (first :: rest) => membersText (indent + 2) (first :: rest)
  | value => endLine (atomText indent value)

def itemsText (indent : Nat) : List Json → List Char
  | [] => []
  | [last] => '-' :: ' ' :: afterMark indent last
  | first :: rest => '-' :: ' ' :: afterMark indent first ++ spaces indent ++ itemsText indent rest

def membersText (indent : Nat) : List (String × Json) → List Char
  | [] => []
  | (key, first) :: rest =>
      keyText indent key ++
        (if isSimpleKey key then afterKey indent first else afterMark indent first) ++
        (if rest.isEmpty then [] else spaces indent ++ membersText indent rest)

end

def write : Json → String
  | .array (first :: rest) => String.ofList (itemsText 0 (first :: rest))
  | .object (first :: rest) => String.ofList (membersText 0 (first :: rest))
  | value => String.ofList (endLine (atomText 0 value))

end PluginNaming.Bundled.Yaml
