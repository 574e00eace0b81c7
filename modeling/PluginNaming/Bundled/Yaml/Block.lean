import PluginNaming.Bundled.Yaml.Glyph

set_option autoImplicit false

namespace PluginNaming.Bundled.Yaml

open PluginNaming.Text

inductive Chomp where
  | strip
  | clip
  | keep
deriving DecidableEq

def chompOf? (c : Char) : Option Chomp :=
  if c = '-' then some .strip else if c = '+' then some .keep else none

def stepOf? (c : Char) : Option Nat :=
  if c.isDigit then some (c.toNat - '0'.toNat) else none

structure Heading where
  chomp : Chomp
  step : Option Nat

def Heading.take (text : List Glyph) : Heading × Nat :=
  let first := charAt 0 text
  let second := charAt 1 text
  match chompOf? first, stepOf? first with
  | some chomp, _ =>
      match stepOf? second with
      | some step => ({ chomp, step := some step }, 2)
      | none => ({ chomp, step := none }, 1)
  | none, some step =>
      match chompOf? second with
      | some chomp => ({ chomp, step := some step }, 2)
      | none => ({ chomp := .clip, step := some step }, 1)
  | none, none => ({ chomp := .clip, step := none }, 0)

structure Lead (whole : List Glyph) where
  ends : List Char
  deepest : Nat
  rest : Tail whole

def isBefore (indent : Option Nat) (column : Nat) : Bool :=
  (indent.map fun indent => decide (column < indent)).getD true

def takeLead {whole : List Glyph} (indent : Option Nat) (ends : List Char) (deepest : Nat)
    (text : Tail whole) : Option (Lead whole) :=
  let spaces := text.1.takeWhile fun glyph => glyph.char == ' ' && isBefore indent glyph.column
  let line := text.andThen (.drop spaces.length text.1)
  match _found : line.1 with
  | [] => some { ends := ends.reverse, deepest, rest := line }
  | glyph :: rest =>
      let deepest := max deepest glyph.column
      if glyph.char = '\t' ∧ isBefore indent glyph.column then none
      else if isLineEnd glyph.char then
        takeLead indent (glyph.char :: ends) deepest
          (line.rest (.behind (Nat.le_refl _) _found)).toTail
      else some { ends := ends.reverse, deepest, rest := line }
termination_by text.1.length
decreasing_by
  have bound : line.1.length ≤ text.1.length := (Tail.drop spaces.length text.1).2
  rw [_found, List.length_cons] at bound
  exact bound

structure BlockText where
  reversed : List Char
  lineEnd : Option Char
  afterBlank : Bool

def BlockText.add (folds : Bool) (state : BlockText) (ends : List Char) (line : List Glyph)
    (lineEnd : Option Char) : BlockText :=
  let blank := isPadding (charAt 0 line)
  let joint :=
    if folds ∧ state.lineEnd = some '\n' ∧ !state.afterBlank ∧ !blank then
      if ends.isEmpty then [' '] else []
    else state.lineEnd.toList
  { reversed := (charsOf line).reverse ++ ends.reverse ++ joint ++ state.reversed
    lineEnd
    afterBlank := blank }

def BlockText.close (state : BlockText) (ends : List Char) : Chomp → List Char
  | .strip => state.reversed.reverse
  | .clip => state.reversed.reverse ++ state.lineEnd.toList
  | .keep => state.reversed.reverse ++ state.lineEnd.toList ++ ends

def readBlock {whole : List Glyph} (folds : Bool) (chomp : Chomp) (indent : Nat)
    (state : BlockText) (lead : Lead whole) : Option (String × Tail whole) :=
  match _found : lead.rest.1 with
  | [] => some (String.ofList (state.close lead.ends chomp), lead.rest)
  | glyph :: rest =>
      if glyph.column = indent ∧ glyph.char ≠ endMark then
        let line := (glyph :: rest).takeWhile fun glyph => !endsLine glyph.char
        let behind : Rest lead.rest.1 :=
          Rest.followedBy (.behind (Nat.le_refl _) _found) (.drop (line.length - 1) rest)
        let lineEnd :=
          (behind.1.head?.filter fun glyph => isLineEnd glyph.char).map Glyph.char
        let next := behind.followedBy (.drop lineEnd.toList.length behind.1)
        match takeLead (some indent) [] 0 (.whole next.1) with
        | none => none
        | some further =>
            let following : Lead whole :=
              { ends := further.ends
                deepest := further.deepest
                rest := (lead.rest.rest next).toTail.andThen further.rest }
            readBlock folds chomp indent (state.add folds lead.ends line lineEnd) following
      else some (String.ofList (state.close lead.ends chomp), lead.rest)
termination_by lead.rest.1.length
decreasing_by
  exact Nat.lt_of_le_of_lt further.rest.2 next.2

def readBlockScalar (folds : Bool) (floor : Nat) (text : List Glyph) :
    Option (String × Tail text) :=
  let (heading, length) := Heading.take text
  let behind : Tail text := .drop length text
  if heading.step = some 0 then none
  else
    match pastLineEnd? behind.1 with
    | none => none
    | some body =>
        let given := heading.step.map fun step => floor - 1 + step
        match takeLead given [] 0 (behind.andThen body) with
        | none => none
        | some lead =>
            let indent := given.getD (max lead.deepest (max floor 1))
            let start : BlockText := { reversed := [], lineEnd := none, afterBlank := false }
            readBlock folds heading.chomp indent start lead

end PluginNaming.Bundled.Yaml
