import PluginNaming.Bundled.Yaml.Block
import PluginNaming.Bundled.Yaml.Plain
import PluginNaming.Bundled.Yaml.Property
import PluginNaming.Bundled.Yaml.Quoted

set_option autoImplicit false

namespace PluginNaming.Bundled.Yaml

open PluginNaming.Text

inductive Token where
  | directive (directive : Directive)
  | documentStart
  | documentEnd
  | blockSequence
  | blockMapping
  | blockEnd
  | flowSequence
  | flowSequenceEnd
  | flowMapping
  | flowMappingEnd
  | dash
  | comma
  | key
  | value
  | link (name : String)
  | anchor (name : String)
  | tag (tag : Tag)
  | scalar (plain : Bool) (text : String)

structure KeyPlace where
  required : Bool
  place : Nat
  line : Nat
  column : Nat
  index : Nat

structure Draft where
  tokens : List Token
  count : Nat
  keyAllowed : Bool
  keys : List (Option KeyPlace)
  columns : List Nat

namespace Draft

def start : Draft :=
  { tokens := [], count := 0, keyAllowed := true, keys := [none], columns := [] }

def inFlow (draft : Draft) : Bool := 1 < draft.keys.length

def floor (draft : Draft) : Nat := (draft.columns.head?.map (· + 1)).getD 0

def add (draft : Draft) (token : Token) : Draft :=
  { draft with tokens := token :: draft.tokens, count := draft.count + 1 }

def insert (draft : Draft) (place : Nat) (token : Token) : Draft :=
  { draft with
    tokens := draft.tokens.insertIdx (draft.count - place) token
    count := draft.count + 1 }

def allowKey (draft : Draft) (allowed : Bool) : Draft :=
  { draft with keyAllowed := allowed }

def dropKey? (draft : Draft) : Option Draft :=
  match draft.keys with
  | some key :: rest => if key.required then none else some { draft with keys := none :: rest }
  | _ => some draft

def longestKey : Nat := 1024

def KeyPlace.isStale (glyph : Glyph) (key : KeyPlace) : Bool :=
  key.line < glyph.line || key.index + longestKey < glyph.index

def dropStale? (draft : Draft) (glyph : Glyph) : Option Draft := do
  let keys ← draft.keys.mapM fun
    | none => some none
    | some key =>
        if KeyPlace.isStale glyph key then if key.required then none else some none
        else some (some key)
  return { draft with keys }

def noteKey? (draft : Draft) (glyph : Glyph) : Option Draft :=
  if draft.keyAllowed then do
    let draft ← draft.dropKey?
    let key : KeyPlace :=
      { required := !draft.inFlow && draft.columns.head? == some glyph.column
        place := draft.count
        line := glyph.line
        column := glyph.column
        index := glyph.index }
    return { draft with keys := some key :: draft.keys.drop 1 }
  else some draft

def openBlock (draft : Draft) (column place : Nat) (token : Token) : Draft :=
  if draft.inFlow || column < draft.floor then draft
  else { draft.insert place token with columns := column :: draft.columns }

def closeBlocks (draft : Draft) (column : Nat) : Draft :=
  if draft.inFlow then draft
  else
    let closed := draft.columns.takeWhile (column ≤ ·)
    { draft with
      tokens := closed.map (fun _ => .blockEnd) ++ draft.tokens
      count := draft.count + closed.length
      columns := draft.columns.drop closed.length }

def leaveBlocks? (draft : Draft) : Option Draft := do
  return (← (draft.closeBlocks 0).dropKey?).allowKey false

def openFlow? (draft : Draft) (glyph : Glyph) (token : Token) : Option Draft := do
  let draft ← draft.noteKey? glyph
  return ({ draft with keys := none :: draft.keys }.allowKey true).add token

def closeFlow? (draft : Draft) (token : Token) : Option Draft := do
  let draft ← draft.dropKey?
  let keys := if draft.inFlow then draft.keys.drop 1 else draft.keys
  return ({ draft with keys }.allowKey false).add token

def addComma? (draft : Draft) : Option Draft := do
  return ((← draft.dropKey?).allowKey true).add .comma

def addMark? (draft : Draft) (glyph : Glyph) (collection mark : Token) : Option Draft :=
  if draft.inFlow || draft.keyAllowed then do
    let draft ← (draft.openBlock glyph.column draft.count collection).dropKey?
    return draft.add mark
  else none

def addDash? (draft : Draft) (glyph : Glyph) : Option Draft :=
  (draft.addMark? glyph .blockSequence .dash).map (·.allowKey true)

def addKey? (draft : Draft) (glyph : Glyph) : Option Draft :=
  (draft.addMark? glyph .blockMapping .key).map fun draft => draft.allowKey !draft.inFlow

def addValue? (draft : Draft) (glyph : Glyph) : Option Draft :=
  match draft.keys with
  | some key :: rest =>
      let keyed := { draft with keys := none :: rest }.insert key.place .key
      some (((keyed.openBlock key.column key.place .blockMapping).allowKey false).add .value)
  | _ =>
      if draft.inFlow then some ((draft.allowKey false).add .value)
      else if draft.keyAllowed then
        some (((draft.openBlock glyph.column draft.count .blockMapping).allowKey true).add .value)
      else none

end Draft

def toNextToken {whole : List Glyph} (inFlow allowed : Bool) (text : Tail whole) :
    Bool × Tail whole :=
  match _found : text.1 with
  | [] => (allowed, text)
  | glyph :: _ =>
      let behind : Rest text.1 := .behind (Nat.le_refl _) _found
      let c := glyph.char
      if c = ' ' ∨ (c = '\uFEFF' ∧ glyph.column = 0) ∨ (c = '\t' ∧ (inFlow ∨ !allowed)) then
        toNextToken inFlow allowed (text.rest behind).toTail
      else if c = '#' then
        toNextToken inFlow allowed (text.rest (behind.followedBy (pastLine behind.1))).toTail
      else if isLineEnd c then toNextToken inFlow (allowed || !inFlow) (text.rest behind).toTail
      else (allowed, text)
termination_by text.1.length
decreasing_by
  · exact behind.2
  · exact (behind.followedBy (pastLine behind.1)).2
  · exact behind.2

def readToken? (draft : Draft) (text : List Glyph) : Option (Draft × Rest text) :=
  match text with
  | [] => none
  | glyph :: rest =>
      let c := glyph.char
      let one : Rest (glyph :: rest) := .tail glyph rest
      let three : Rest (glyph :: rest) := .drop glyph rest 2
      let closesWord := endsWord (charAt 0 rest)
      let plainText (found : String × Bool × Rest (glyph :: rest)) (draft : Draft) :=
        ((draft.allowKey found.2.1).add (.scalar true found.1), found.2.2)
      if glyph.column = 0 ∧ c = '%' then do
        let (directive, after) ← readDirective? rest
        return ((← draft.leaveBlocks?).add (.directive directive), one.followedBy after)
      else if isDocumentMark '-' (glyph :: rest) then do
        return ((← draft.leaveBlocks?).add .documentStart, three)
      else if isDocumentMark '.' (glyph :: rest) then do
        return ((← draft.leaveBlocks?).add .documentEnd, three)
      else if c = '[' then do return (← draft.openFlow? glyph .flowSequence, one)
      else if c = '\x7b' then do return (← draft.openFlow? glyph .flowMapping, one)
      else if c = ']' then do return (← draft.closeFlow? .flowSequenceEnd, one)
      else if c = '\x7d' then do return (← draft.closeFlow? .flowMappingEnd, one)
      else if c = ',' then do return (← draft.addComma?, one)
      else if c = '-' ∧ closesWord then do return (← draft.addDash? glyph, one)
      else if c = '?' ∧ (draft.inFlow ∨ closesWord) then do return (← draft.addKey? glyph, one)
      else if c = ':' ∧ (draft.inFlow ∨ closesWord) then do return (← draft.addValue? glyph, one)
      else if c = '*' then do
        let (name, after) ← readName? rest
        return (((← draft.noteKey? glyph).allowKey false).add (.link name), one.followedBy after)
      else if c = '&' then do
        let (name, after) ← readName? rest
        return (((← draft.noteKey? glyph).allowKey false).add (.anchor name), one.followedBy after)
      else if c = '!' then do
        let (tag, after) ← readTag? draft.inFlow rest
        return (((← draft.noteKey? glyph).allowKey false).add (.tag tag), one.followedBy after)
      else if (c = '|' ∨ c = '>') ∧ !draft.inFlow then do
        let (block, after) ← readBlockScalar (c == '>') draft.floor rest
        return (((← draft.dropKey?).allowKey true).add (.scalar false block), one.followedBy after)
      else if c = '\'' ∨ c = '"' then do
        let (quoted, after) ← readQuoted c [] one
        return (((← draft.noteKey? glyph).allowKey false).add (.scalar false quoted), after)
      else if startsPlain draft.inFlow (glyph :: rest) then do
        let margin : Margin := { inFlow := draft.inFlow, floor := draft.floor }
        return plainText (← readPlainScalar margin (glyph :: rest)) (← draft.noteKey? glyph)
      else none

def readTokens? (draft : Draft) (text : List Glyph) : Option (List Token) :=
  let (allowed, next) := toNextToken draft.inFlow draft.keyAllowed (.whole text)
  let draft := draft.allowKey allowed
  match _found : next.1 with
  | [] => none
  | glyph :: rest =>
      match draft.dropStale? glyph with
      | none => none
      | some draft =>
          if glyph.char = endMark then
            ((draft.closeBlocks 0).dropKey?).map fun draft => draft.tokens.reverse
          else
            match readToken? (draft.closeBlocks (glyph.column + 1)) (glyph :: rest) with
            | none => none
            | some (draft, after) => readTokens? draft after.1
termination_by text.length
decreasing_by
  have bound := next.2
  have shorter := after.2
  rw [_found] at bound
  omega

def tokens? (text : List Char) : Option (List Token) :=
  (glyphs? text).bind (readTokens? .start)

end PluginNaming.Bundled.Yaml
