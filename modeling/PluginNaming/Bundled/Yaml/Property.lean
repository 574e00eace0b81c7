import PluginNaming.Bundled.Yaml.Glyph

set_option autoImplicit false

namespace PluginNaming.Bundled.Yaml

open PluginNaming.Text

def isNamePart (c : Char) : Bool := c.isAlphanum || c == '_' || c == '-'

def takeName (text : List Glyph) : List Glyph :=
  text.takeWhile fun glyph => isNamePart glyph.char

def pastPadding (text : List Glyph) : Tail text :=
  .past (fun glyph => isPadding glyph.char) text

def readName? (text : List Glyph) : Option (String × Tail text) :=
  let name := takeName text
  let next := charAt name.length text
  if name.isEmpty || !(endsWord next || "?:,]\x7d%@\x60".toList.contains next) then none
  else some (String.ofList (charsOf name), .drop name.length text)

def isUriPart (c : Char) : Bool :=
  isNamePart c || ";/?:@&=+$.%!~*'()".toList.contains c

def byteCount? (byte : Nat) : Option Nat :=
  if byte < 0x80 then some 1
  else if 0xC0 ≤ byte ∧ byte < 0xE0 then some 2
  else if 0xE0 ≤ byte ∧ byte < 0xF0 then some 3
  else if 0xF0 ≤ byte ∧ byte < 0xF8 then some 4
  else none

-- Characters beyond ASCII are kept as bytes, which no known tag has.
def unescaped? (due : Nat) (seen : List Char) : List Char → Option (List Char)
  | [] => if due = 0 then some seen.reverse else none
  | '%' :: a :: b :: rest => do
      let byte ← ofHex? [a, b]
      let due ←
        if due = 0 then (byteCount? byte).map (· - 1)
        else if 0x80 ≤ byte ∧ byte < 0xC0 then some (due - 1)
        else none
      unescaped? due (Char.ofNat byte :: seen) rest
  | c :: rest => if due = 0 ∧ c ≠ '%' then unescaped? 0 (c :: seen) rest else none

def readUri? (bracketed : Bool) (text : List Glyph) : Option (List Char × Tail text) :=
  let part := text.takeWhile fun glyph =>
    isUriPart glyph.char || (bracketed && [',', '[', ']'].contains glyph.char)
  (unescaped? 0 [] (charsOf part)).map fun chars => (chars, .drop part.length text)

def readHandle (text : List Glyph) : List Char × Tail text :=
  let name := takeName text
  if charAt name.length text = '!' then
    ('!' :: charsOf name ++ ['!'], .drop (name.length + 1) text)
  else ('!' :: charsOf name, .drop name.length text)

structure Tag where
  handle : List Char
  suffix : List Char

def readTagName? (text : List Glyph) : Option (Tag × Tail text) :=
  if charAt 0 text = '<' then do
    let opened : Tail text := .drop 1 text
    let (suffix, rest) ← readUri? true opened.1
    if suffix.isEmpty || charAt 0 rest.1 != '>' then none
    else some ({ handle := [], suffix }, opened.andThen (rest.andThen (.drop 1 rest.1)))
  else
    let (handle, afterHandle) := readHandle text
    if 1 < handle.length ∧ handle.getLast? = some '!' then do
      let (suffix, rest) ← readUri? false afterHandle.1
      if suffix.isEmpty then none else some ({ handle, suffix }, afterHandle.andThen rest)
    else do
      let (more, rest) ← readUri? false afterHandle.1
      let suffix := handle.drop 1 ++ more
      let tag : Tag :=
        if suffix.isEmpty then { handle := [], suffix := ['!'] } else { handle := ['!'], suffix }
      some (tag, afterHandle.andThen rest)

def readTag? (inFlow : Bool) (text : List Glyph) : Option (Tag × Tail text) := do
  let (tag, rest) ← readTagName? text
  let next := charAt 0 rest.1
  if endsWord next || (inFlow && next == ',') then some (tag, rest) else none

inductive Directive where
  | version (major minor : Nat)
  | handle (name meaning : List Char)

def readVersionPart? (text : List Glyph) : Option (Nat × Tail text) :=
  let digits := text.takeWhile fun glyph => glyph.char.isDigit
  if digits.isEmpty || 9 < digits.length then none
  else some ((charsOf digits).foldl (fun total c => 10 * total + (c.toNat - '0'.toNat)) 0,
    .drop digits.length text)

def readVersion? (text : List Glyph) : Option (Directive × Tail text) := do
  let start := pastPadding text
  let (major, a) ← readVersionPart? start.1
  if charAt 0 a.1 != '.' then none
  else
    let b : Tail a.1 := .drop 1 a.1
    let (minor, c) ← readVersionPart? b.1
    some (.version major minor, start.andThen (a.andThen (b.andThen c)))

def readTagDirective? (text : List Glyph) : Option (Directive × Tail text) := do
  let start := pastPadding text
  if charAt 0 start.1 != '!' then none
  else
    let opened := start.andThen (.drop 1 start.1)
    let (handle, a) := readHandle opened.1
    if (1 < handle.length && handle.getLast? != some '!') || !isPadding (charAt 0 a.1) then none
    else
      let b := pastPadding a.1
      let (meaning, c) ← readUri? true b.1
      if meaning.isEmpty || !endsWord (charAt 0 c.1) then none
      else some (.handle handle meaning, opened.andThen (a.andThen (b.andThen c)))

def readDirective? (text : List Glyph) : Option (Directive × Tail text) := do
  let name := takeName text
  let behind : Tail text := .drop name.length text
  if !endsWord (charAt 0 behind.1) then none
  else
    let (directive, rest) ←
      if charsOf name = "YAML".toList then readVersion? behind.1
      else if charsOf name = "TAG".toList then readTagDirective? behind.1
      else none
    let next ← pastLineEnd? rest.1
    some (directive, behind.andThen (rest.andThen next))

end PluginNaming.Bundled.Yaml
