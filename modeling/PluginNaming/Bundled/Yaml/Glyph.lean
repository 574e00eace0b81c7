import PluginNaming.Bundled.Line
import PluginNaming.Text.CodePoint
import PluginNaming.Text.Rest

set_option autoImplicit false

namespace PluginNaming.Bundled.Yaml

open PluginNaming.Text

structure Glyph where
  char : Char
  line : Nat
  column : Nat
  index : Nat

def endMark : Char := '\x00'

def isAllowed (c : Char) : Bool :=
  c == '\t' || c == '\n' || c == '\r' || (0x20 ≤ c.toNat && c.toNat ≤ 0x7E) || c.toNat == 0x85 ||
    (0xA0 ≤ c.toNat && c.toNat ≤ 0xFFFD) || 0x10000 ≤ c.toNat

def isLineEnd (c : Char) : Bool := c == '\n' || c == '\u2028' || c == '\u2029'

def isGapPart (c : Char) : Bool := isPadding c || isLineEnd c

def endsLine (c : Char) : Bool := isLineEnd c || c == endMark

def endsWord (c : Char) : Bool := isGapPart c || c == endMark

def glyphsFrom (seen : List Glyph) (line column index : Nat) : List Char → List Glyph
  | [] => ({ char := endMark, line, column, index } :: seen).reverse
  | '\r' :: '\n' :: rest =>
      glyphsFrom ({ char := '\n', line, column, index } :: seen) (line + 1) 0 (index + 2) rest
  | c :: rest =>
      let char := if c = '\r' ∨ c = '\u0085' then '\n' else c
      let seen := { char, line, column, index } :: seen
      if isLineEnd char then glyphsFrom seen (line + 1) 0 (index + 1) rest
      else glyphsFrom seen line (column + 1) (index + 1) rest

def glyphs? (text : List Char) : Option (List Glyph) :=
  if text.all isAllowed then some (glyphsFrom [] 0 0 0 text) else none

def charAt (distance : Nat) (text : List Glyph) : Char :=
  (text[distance]?.map Glyph.char).getD endMark

def columnOf (text : List Glyph) : Nat :=
  (text.head?.map Glyph.column).getD 0

def charsOf (text : List Glyph) : List Char := text.map Glyph.char

def isDocumentMark (c : Char) (text : List Glyph) : Bool :=
  columnOf text == 0 && charAt 0 text == c && charAt 1 text == c && charAt 2 text == c &&
    endsWord (charAt 3 text)

def startsDocumentMark (text : List Glyph) : Bool :=
  isDocumentMark '-' text || isDocumentMark '.' text

def takeGap (text : List Glyph) : List Glyph :=
  text.takeWhile fun glyph => isGapPart glyph.char

def foldedEnds : List Char → List Char
  | [] => []
  | '\n' :: further => if further.isEmpty then [' '] else further
  | ends => ends

def foldedGap (gap : List Glyph) : List Char :=
  let chars := charsOf gap
  if chars.any isLineEnd then foldedEnds (chars.filter isLineEnd) else chars

def pastLine (text : List Glyph) : Tail text :=
  .past (fun glyph => !endsLine glyph.char) text

def pastComment (text : List Glyph) : Tail text :=
  let padded : Tail text := .past (fun glyph => isPadding glyph.char) text
  if charAt 0 padded.1 = '#' then padded.andThen (pastLine padded.1) else padded

def pastLineEnd? (text : List Glyph) : Option (Tail text) :=
  let rest := pastComment text
  match found : rest.1 with
  | [] => some rest
  | glyph :: _ =>
      if isLineEnd glyph.char then some (rest.rest (.behind (Nat.le_refl _) found)).toTail
      else if glyph.char = endMark then some rest
      else none

end PluginNaming.Bundled.Yaml
