import PluginNaming.Bundled.Yaml.Glyph

set_option autoImplicit false

namespace PluginNaming.Bundled.Yaml

open PluginNaming.Text

def isFlowMark (c : Char) : Bool :=
  c == ',' || c == '[' || c == ']' || c == '\x7b' || c == '\x7d'

structure Margin where
  inFlow : Bool
  floor : Nat

def startsPlain (inFlow : Bool) (text : List Glyph) : Bool :=
  let c := charAt 0 text
  let next := charAt 1 text
  if c = '-' then !isPadding next
  else if c = '?' ∨ c = ':' then !inFlow && !endsWord next
  else !endsWord c && !isFlowMark c && !"#&*!|>'\"%@\x60".toList.contains c

def wordLength (inFlow : Bool) (count : Nat) : List Glyph → Nat
  | [] => count
  | glyph :: rest =>
      if endsWord glyph.char || (glyph.char == ':' && endsWord (charAt 0 rest)) ||
          (inFlow && isFlowMark glyph.char) then count
      else wordLength inFlow (count + 1) rest

def takeWord (inFlow : Bool) (text : List Glyph) : List Glyph :=
  text.take (wordLength inFlow 0 text)

def hasLooseColon : List Char → Bool
  | ':' :: next :: rest => isFlowMark next || next == '?' || hasLooseColon (next :: rest)
  | _ :: rest => hasLooseColon rest
  | [] => false

def isProperWord (inFlow : Bool) (word : List Glyph) (next : Char) : Bool :=
  !inFlow || !hasLooseColon (charsOf word ++ [next])

def tabsInto (floor : Nat) (gap : List Glyph) : Bool :=
  (gap.dropWhile fun glyph => isPadding glyph.char).any fun glyph =>
    glyph.char == '\t' && glyph.column < floor

def readPlain {whole : List Glyph} (margin : Margin) (seen : List Char) (text : Rest whole) :
    Option (String × Bool × Rest whole) :=
  match _found : text.1 with
  | [] => some (String.ofList seen.reverse, false, text)
  | glyph :: rest =>
      if isGapPart glyph.char then
        let gap := glyph :: takeGap rest
        let behind : Rest text.1 := .behind (Nat.le_refl _) _found
        let next := behind.followedBy (.drop (takeGap rest).length behind.1)
        let ended := (charsOf gap).any isLineEnd
        let word := takeWord margin.inFlow next.1
        if tabsInto margin.floor gap then none
        else if (!margin.inFlow && columnOf next.1 < margin.floor) || startsDocumentMark next.1 ||
            charAt 0 next.1 == '#' || word.isEmpty then
          some (String.ofList seen.reverse, ended, text.andThen next)
        else if isProperWord margin.inFlow word (charAt word.length next.1) then
          readPlain margin ((charsOf word).reverse ++ (foldedGap gap).reverse ++ seen)
            (text.andThen (next.followedBy (.drop word.length next.1)))
        else none
      else some (String.ofList seen.reverse, false, text)
termination_by text.1.length
decreasing_by
  exact Subtype.property (p := fun rest : List Glyph => rest.length < text.1.length) _

def readPlainScalar (margin : Margin) (text : List Glyph) :
    Option (String × Bool × Rest text) :=
  match text with
  | [] => none
  | first :: rest =>
      let word := takeWord margin.inFlow rest
      if isProperWord margin.inFlow (first :: word) (charAt word.length rest) then
        readPlain margin ((charsOf word).reverse ++ [first.char])
          ((Rest.tail first rest).followedBy (.drop word.length rest))
      else none

end PluginNaming.Bundled.Yaml
