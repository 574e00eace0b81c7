import PluginNaming.Bundled.Yaml.Token

set_option autoImplicit false

namespace PluginNaming.Bundled.Yaml

open PluginNaming.Text

structure Properties where
  anchor : Option String
  tag : Option String

def Properties.bare : Properties := { anchor := none, tag := none }

inductive Tree where
  | scalar (properties : Properties) (plain : Bool) (text : String)
  | sequence (properties : Properties) (items : List Tree)
  | mapping (properties : Properties) (members : List (Tree × Tree))
  | link (name : String)

def Tree.empty : Tree := .scalar .bare true ""

abbrev Handles := List (List Char × List Char)

def Handles.usual : Handles :=
  [(['!'], ['!']), (['!', '!'], "tag:yaml.org,2002:".toList)]

def Handles.resolve? (handles : Handles) (tag : Tag) : Option String :=
  if tag.handle.isEmpty then some (String.ofList tag.suffix)
  else (handles.lookup tag.handle).map fun meaning => String.ofList (meaning ++ tag.suffix)

def Properties.empty? (properties : Properties) : Option Tree :=
  if properties.anchor.isNone && properties.tag.isNone then none
  else some (.scalar properties true "")

def Properties.ofScalar (properties : Properties) : Properties :=
  { properties with tag := properties.tag.filter (· != "!") }

def takeProperties? (handles : Handles) (tokens : List Token) :
    Option (Properties × Tail tokens) :=
  match tokens with
  | .anchor name :: .tag tag :: _ | .tag tag :: .anchor name :: _ => do
      let tag ← handles.resolve? tag
      return ({ anchor := some name, tag := some tag }, .drop 2 _)
  | .anchor name :: _ => some ({ anchor := some name, tag := none }, .drop 1 _)
  | .tag tag :: _ => do
      let tag ← handles.resolve? tag
      return ({ anchor := none, tag := some tag }, .drop 1 _)
  | _ => some (.bare, .whole _)

inductive Position where
  | item
  | member
  | flow
deriving DecidableEq

def endsMember : List Token → Bool
  | .key :: _ | .value :: _ | .blockEnd :: _ => true
  | _ => false

def endsItem (indented : Bool) : List Token → Bool
  | .dash :: _ | .blockEnd :: _ => true
  | tokens => !indented && endsMember tokens

def endsFlow : List Token → Bool
  | .comma :: _ | .flowSequenceEnd :: _ | .flowMappingEnd :: _ => true
  | _ => false

def endsFlowKey : List Token → Bool
  | .value :: _ | .comma :: _ | .flowMappingEnd :: _ => true
  | _ => false

def endsPairKey : List Token → Bool
  | .value :: _ | .comma :: _ | .flowSequenceEnd :: _ => true
  | _ => false

theorem tail_before {tokens : List Token} (tail : Tail tokens) {inner outer : Nat}
    (before : inner < outer) :
    Prod.Lex (· < ·) (· < ·) (tail.1.length, inner) (tokens.length, outer) := by
  rcases Nat.lt_or_eq_of_le tail.2 with less | same
  · exact .left _ _ less
  · rw [same]
    exact .right _ before

mutual

def readTree? (handles : Handles) (position : Position) (tokens : List Token) :
    Option (Tree × Tail tokens) :=
  match tokens with
  | .link name :: rest => some (.link name, (Rest.tail _ rest).toTail)
  | tokens => do
      let (properties, content) ← takeProperties? handles tokens
      let (tree, rest) ← readContent? handles position properties content.1
      return (tree, content.andThen rest)
termination_by (tokens.length, 1)
decreasing_by exact tail_before content (by decide)

def readContent? (handles : Handles) (position : Position) (properties : Properties)
    (tokens : List Token) : Option (Tree × Tail tokens) :=
  match tokens with
  | .scalar plain text :: rest =>
      some (.scalar properties.ofScalar plain text, (Rest.tail _ rest).toTail)
  | .flowSequence :: rest => do
      let (items, after) ← readFlowItems? handles [] rest
      return (.sequence properties items, (after.cons _).toTail)
  | .flowMapping :: rest => do
      let (members, after) ← readFlowMembers? handles [] rest
      return (.mapping properties members, (after.cons _).toTail)
  | .blockSequence :: .dash :: rest =>
      if position = .flow then properties.empty?.map (·, .whole _)
      else do
        let (items, after) ← readItems? handles true [] rest
        return (.sequence properties items, ((after.cons _).cons _).toTail)
  | .blockMapping :: .key :: rest =>
      if position = .flow then properties.empty?.map (·, .whole _)
      else do
        let (members, after) ← readMembers? handles [] rest
        return (.mapping properties members, ((after.cons _).cons _).toTail)
  | .dash :: rest =>
      if position = .member then do
        let (items, after) ← readItems? handles false [] rest
        return (.sequence properties items, (after.cons _).toTail)
      else properties.empty?.map (·, .whole _)
  | tokens => properties.empty?.map (·, .whole tokens)
termination_by (tokens.length, 0)

def readOptional? (handles : Handles) (position : Position) (absent : Bool) (tokens : List Token) :
    Option (Tree × Tail tokens) :=
  if absent then some (.empty, .whole tokens) else readTree? handles position tokens
termination_by (tokens.length, 2)

def readItems? (handles : Handles) (indented : Bool) (seen : List Tree) (tokens : List Token) :
    Option (List Tree × Tail tokens) := do
  let (item, rest) ← readOptional? handles .item (endsItem indented tokens) tokens
  let items := item :: seen
  match _found : rest.1 with
  | .dash :: _ =>
      let behind := rest.rest (.behind (Nat.le_refl _) _found)
      let (items, after) ← readItems? handles indented items behind.1
      return (items, (behind.followedBy after).toTail)
  | .blockEnd :: _ =>
      let behind := rest.rest (.behind (Nat.le_refl _) _found)
      return (items.reverse, if indented then behind.toTail else rest)
  | _ => if indented then none else return (items.reverse, rest)
termination_by (tokens.length, 3)
decreasing_by
  · decreasing_tactic
  · exact .left _ _ behind.2

def readValue? (handles : Handles) (position : Position) (tokens : List Token) :
    Option (Tree × Tail tokens) :=
  match tokens with
  | .value :: rest => do
      let absent := if position = .flow then endsFlow rest else endsMember rest
      let (tree, after) ← readOptional? handles position absent rest
      return (tree, (after.cons _).toTail)
  | tokens => some (.empty, .whole tokens)
termination_by (tokens.length, 3)

def readMember? (handles : Handles) (position : Position) (keyAbsent : Bool) (tokens : List Token) :
    Option ((Tree × Tree) × Tail tokens) := do
  let (key, rest) ← readOptional? handles position keyAbsent tokens
  let (value, after) ← readValue? handles position rest.1
  return ((key, value), rest.andThen after)
termination_by (tokens.length, 4)
decreasing_by
  · decreasing_tactic
  · exact tail_before rest (by decide)

def readMembers? (handles : Handles) (seen : List (Tree × Tree)) (tokens : List Token) :
    Option (List (Tree × Tree) × Tail tokens) := do
  let (member, rest) ← readMember? handles .member (endsMember tokens) tokens
  let members := member :: seen
  match _found : rest.1 with
  | .key :: _ =>
      let behind := rest.rest (.behind (Nat.le_refl _) _found)
      let (members, after) ← readMembers? handles members behind.1
      return (members, (behind.followedBy after).toTail)
  | .blockEnd :: _ => return (members.reverse, (rest.rest (.behind (Nat.le_refl _) _found)).toTail)
  | _ => none
termination_by (tokens.length, 5)
decreasing_by
  · decreasing_tactic
  · exact .left _ _ behind.2

def readFlowMember? (handles : Handles) (tokens : List Token) :
    Option ((Tree × Tree) × Tail tokens) :=
  match tokens with
  | .key :: rest => do
      let (member, after) ← readMember? handles .flow (endsFlowKey rest) rest
      return (member, (after.cons _).toTail)
  | tokens => do
      let (key, rest) ← readTree? handles .flow tokens
      return ((key, .empty), rest)
termination_by (tokens.length, 5)

def readFlowMembers? (handles : Handles) (seen : List (Tree × Tree)) (tokens : List Token) :
    Option (List (Tree × Tree) × Tail tokens) :=
  match tokens with
  | .flowMappingEnd :: rest => some (seen.reverse, (Rest.tail _ rest).toTail)
  | tokens => do
      let (member, rest) ← readFlowMember? handles tokens
      let members := member :: seen
      match _found : rest.1 with
      | .comma :: _ =>
          let behind := rest.rest (.behind (Nat.le_refl _) _found)
          let (members, after) ← readFlowMembers? handles members behind.1
          return (members, (behind.followedBy after).toTail)
      | .flowMappingEnd :: _ =>
          return (members.reverse, (rest.rest (.behind (Nat.le_refl _) _found)).toTail)
      | _ => none
termination_by (tokens.length, 6)
decreasing_by
  · decreasing_tactic
  · exact .left _ _ behind.2

def readPair? (handles : Handles) (tokens : List Token) : Option ((Tree × Tree) × Tail tokens) :=
  if endsPairKey tokens then do
    let behind : Tail tokens := .drop 1 tokens
    let (value, after) ← readValue? handles .flow behind.1
    return ((.empty, value), behind.andThen after)
  else readMember? handles .flow false tokens
termination_by (tokens.length, 5)
decreasing_by
  · exact tail_before behind (by decide)
  · decreasing_tactic

def readFlowItem? (handles : Handles) (tokens : List Token) : Option (Tree × Tail tokens) :=
  match tokens with
  | .key :: rest => do
      let (pair, after) ← readPair? handles rest
      return (.mapping .bare [pair], (after.cons _).toTail)
  | tokens => readTree? handles .flow tokens
termination_by (tokens.length, 5)

def readFlowItems? (handles : Handles) (seen : List Tree) (tokens : List Token) :
    Option (List Tree × Tail tokens) :=
  match tokens with
  | .flowSequenceEnd :: rest => some (seen.reverse, (Rest.tail _ rest).toTail)
  | tokens => do
      let (item, rest) ← readFlowItem? handles tokens
      let items := item :: seen
      match _found : rest.1 with
      | .comma :: _ =>
          let behind := rest.rest (.behind (Nat.le_refl _) _found)
          let (items, after) ← readFlowItems? handles items behind.1
          return (items, (behind.followedBy after).toTail)
      | .flowSequenceEnd :: _ =>
          return (items.reverse, (rest.rest (.behind (Nat.le_refl _) _found)).toTail)
      | _ => none
termination_by (tokens.length, 6)
decreasing_by
  · decreasing_tactic
  · exact .left _ _ behind.2

end

end PluginNaming.Bundled.Yaml
