import PluginNaming.Bundled.Yaml.Glyph

set_option autoImplicit false

namespace PluginNaming.Bundled.Yaml

open PluginNaming.Text

def simpleEscapes : List (Char × Char) :=
  [('0', '\x00'), ('a', '\x07'), ('b', '\x08'), ('t', '\t'), ('\t', '\t'), ('n', '\n'),
    ('v', '\x0b'), ('f', '\x0c'), ('r', '\r'), ('e', '\x1b'), (' ', ' '), ('"', '"'),
    ('/', '/'), ('\\', '\\'), ('N', '\u0085'), ('_', '\u00a0'), ('L', '\u2028'), ('P', '\u2029')]

def escapeWidth (c : Char) : Nat :=
  if c = 'x' then 2 else if c = 'u' then 4 else if c = 'U' then 8 else 0

def takeEscape? (text : List Glyph) : Option (Char × Rest text) :=
  match text with
  | [] => none
  | glyph :: rest =>
      let width := escapeWidth glyph.char
      if width = 0 then
        (simpleEscapes.lookup glyph.char).map fun escaped => (escaped, Rest.tail _ rest)
      else if (rest.take width).length = width then
        (charOfHex? (charsOf (rest.take width))).map fun escaped =>
          (escaped, Rest.drop _ rest width)
      else none

def readQuoted {whole : List Glyph} (mark : Char) (seen : List Char) (text : Rest whole) :
    Option (String × Rest whole) :=
  match _found : text.1 with
  | [] => none
  | glyph :: rest =>
      let next : Rest text.1 := .behind (Nat.le_refl _) _found
      if startsDocumentMark (glyph :: rest) || glyph.char == endMark then none
      else if glyph.char = mark then
        if mark = '\'' ∧ charAt 0 rest = mark then
          readQuoted mark (mark :: seen) (text.andThen (next.followedBy (.drop 1 next.1)))
        else some (String.ofList seen.reverse, text.andThen next)
      else if mark = '"' ∧ glyph.char = '\\' then
        if isLineEnd (charAt 0 next.1) then
          let gap := takeGap (next.1.drop 1)
          readQuoted mark (((charsOf gap).filter isLineEnd).reverse ++ seen)
            (text.andThen (next.followedBy (.drop (gap.length + 1) next.1)))
        else
          match takeEscape? next.1 with
          | none => none
          | some (escaped, after) =>
              readQuoted mark (escaped :: seen) (text.andThen (next.andThen after))
      else if isGapPart glyph.char then
        let gap := takeGap rest
        readQuoted mark ((foldedGap (glyph :: gap)).reverse ++ seen)
          (text.andThen (next.followedBy (.drop gap.length next.1)))
      else readQuoted mark (glyph.char :: seen) (text.andThen next)
termination_by text.1.length
decreasing_by
  all_goals exact Subtype.property (p := fun rest : List Glyph => rest.length < text.1.length) _

end PluginNaming.Bundled.Yaml
