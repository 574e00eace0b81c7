import PluginNaming.Bundled.Toml.Scalar
import PluginNaming.Bundled.Toml.Tables

set_option autoImplicit false

namespace PluginNaming.Bundled.Toml

open PluginNaming.Data PluginNaming.Number PluginNaming.Text

def skipSpace (inComment : Bool) : List Char → List Char
  | [] => []
  | c :: rest =>
      if c = '\n' then skipSpace false rest
      else if inComment || isPadding c then skipSpace inComment rest
      else if c = '#' then skipSpace true rest
      else c :: rest

theorem skip_space_length (inComment : Bool) (text : List Char) :
    (skipSpace inComment text).length ≤ text.length := by
  induction text generalizing inComment with
  | nil => simp [skipSpace]
  | cons c rest hypothesis =>
      simp only [skipSpace]
      split
      · exact Nat.le_succ_of_le (hypothesis false)
      · split
        · exact Nat.le_succ_of_le (hypothesis inComment)
        · split
          · exact Nat.le_succ_of_le (hypothesis true)
          · exact Nat.le_refl _

def afterSpace {text rest : List Char} {c : Char} (found : skipSpace false text = c :: rest) :
    Rest text :=
  .behind (skip_space_length false text) found

def lineEnd? (text : List Char) : Option (Tail text) :=
  match found : dropPadding text with
  | [] => some ⟨[], Nat.zero_le _⟩
  | '\n' :: _ => some (afterPadding found).toTail
  | '#' :: rest =>
      let bound := (List.dropWhile_suffix (· != '\n') (l := rest)).length_le
      some ((afterPadding found).toTail.andThen ⟨rest.dropWhile (· != '\n'), bound⟩)
  | _ => none

def isBareKey (c : Char) : Bool := c.isAlphanum || c == '_' || c == '-'

def readSimpleKey (text : List Char) : Option (String × Rest text) :=
  match readLineString text with
  | some found => some found
  | none =>
      match text with
      | [] => none
      | c :: rest =>
          if isBareKey c then
            some (String.ofList (c :: rest.takeWhile isBareKey), Rest.past c isBareKey rest)
          else none

def readPath (text : List Char) : Option (List String × Rest text) :=
  match readSimpleKey text with
  | none => none
  | some (key, rest) =>
      match point : dropPadding rest.1 with
      | '.' :: more =>
          (readPath (dropPadding more)).map fun found =>
            (key :: found.1, rest.andThen
              ((afterPadding point).andThen (found.2.trans (drop_padding_length more))))
      | _ => some ([key], rest)
termination_by text.length
decreasing_by
  have outer := drop_padding_length rest.1
  have inner := drop_padding_length more
  have shorter := rest.2
  rw [point, List.length_cons] at outer
  omega

def depthLimit : Nat := 79

def readKey (text : List Char) : Option (List String × Rest text) :=
  (readPath text).filter fun found => found.1.length ≤ depthLimit

def expect (c : Char) (text : List Char) : Option (Rest text) :=
  match found : dropPadding text with
  | first :: _ => if first = c then some (afterPadding found) else none
  | [] => none

mutual

def readValue (depth : Nat) (text : List Char) : Option (Node × Rest text) :=
  match text with
  | '[' :: rest =>
      match depth with
      | 0 => none
      | depth + 1 =>
          (readItems depth [] (skipSpace false rest)).map fun found =>
            (.items true found.1, (found.2.trans (skip_space_length false rest)).cons _)
  | '\x7b' :: rest =>
      match depth with
      | 0 => none
      | depth + 1 =>
          match expect '\x7d' rest with
          | some after => some (.members true [], after.cons _)
          | none =>
              (readPairs depth [] (dropPadding rest)).map fun found =>
                (found.1.node, (found.2.trans (drop_padding_length rest)).cons _)
  | text => readScalar text
termination_by (text.length, 0)
decreasing_by
  · have := skip_space_length false rest
    simp [Prod.lex_def]
    omega
  · have := drop_padding_length rest
    simp [Prod.lex_def]
    omega

def readItems (depth : Nat) (seen : List Node) (text : List Char) : Option (List Node × Rest text) :=
  match text with
  | ']' :: rest => some (seen.reverse, Rest.tail _ rest)
  | text =>
      match readValue depth text with
      | none => none
      | some (first, rest) =>
          match after : skipSpace false rest.1 with
          | ',' :: more =>
              (readItems depth (first :: seen) (skipSpace false more)).map fun found =>
                (found.1, rest.andThen
                  ((afterSpace after).andThen (found.2.trans (skip_space_length false more))))
          | ']' :: _ => some ((first :: seen).reverse, rest.andThen (afterSpace after))
          | _ => none
termination_by (text.length, 1)
decreasing_by
  · simp [Prod.lex_def]
  · have outer := skip_space_length false rest.1
    have inner := skip_space_length false more
    have shorter := rest.2
    rw [after, List.length_cons] at outer
    simp [Prod.lex_def]
    omega

def readPairs (depth : Nat) (seen : Slots) (text : List Char) : Option (Slots × Rest text) :=
  match readKey text with
  | none => none
  | some (key, afterKey) =>
      match expect '=' afterKey.1 with
      | none => none
      | some valueText =>
          match readValue depth (dropPadding valueText.1) with
          | none => none
          | some (node, rest) =>
              match seen.assign node true key with
              | none => none
              | some slots =>
                  let whole : Rest text := afterKey.andThen
                    (valueText.andThen (rest.trans (drop_padding_length valueText.1)))
                  match after : dropPadding rest.1 with
                  | ',' :: more =>
                      (readPairs depth slots (dropPadding more)).map fun found =>
                        (found.1, whole.andThen
                          ((afterPadding after).andThen (found.2.trans (drop_padding_length more))))
                  | '\x7d' :: _ => some (slots, whole.andThen (afterPadding after))
                  | _ => none
termination_by (text.length, 1)
decreasing_by
  · have := drop_padding_length valueText.1
    have := valueText.2
    have := afterKey.2
    simp [Prod.lex_def]
    omega
  · have outer := drop_padding_length rest.1
    have := drop_padding_length more
    have := drop_padding_length valueText.1
    have := rest.2
    have := valueText.2
    have := afterKey.2
    rw [after, List.length_cons] at outer
    simp [Prod.lex_def]
    omega

end

inductive Statement where
  | heading (path : List String)
  | row (path : List String)
  | pair (path : List String) (node : Node)

def readHeading (double : Bool) (text : List Char) : Option (Statement × Rest text) := do
  let (path, rest) ← readKey (dropPadding text)
  let close ← expect ']' rest.1
  let whole : Rest text := (rest.andThen close).trans (drop_padding_length text)
  if double then
    match inner : close.1 with
    | ']' :: _ => some (.row path, whole.andThen (.behind (Nat.le_refl _) inner))
    | _ => none
  else some (.heading path, whole)

def readPair (text : List Char) : Option (Statement × Rest text) := do
  let (path, rest) ← readKey text
  let valueText ← expect '=' rest.1
  let (node, after) ← readValue depthLimit (dropPadding valueText.1)
  return (.pair path node,
    rest.andThen (valueText.andThen (after.trans (drop_padding_length valueText.1))))

def readStatement (text : List Char) : Option (Statement × Rest text) :=
  match text with
  | '[' :: '[' :: rest =>
      (readHeading true rest).map fun found => (found.1, (found.2.cons _).cons _)
  | '[' :: rest => (readHeading false rest).map fun found => (found.1, found.2.cons _)
  | text => readPair text

def readStatements (seen : List Statement) (text : List Char) : Option (List Statement) :=
  match _found : skipSpace false text with
  | [] => some seen.reverse
  | c :: rest =>
      match readStatement (c :: rest) with
      | none => none
      | some (statement, after) =>
          match lineEnd? after.1 with
          | none => none
          | some next => readStatements (statement :: seen) next.1
termination_by text.length
decreasing_by
  have bound := skip_space_length false text
  have read := after.2
  have closed := next.2
  rw [_found] at bound
  omega

structure Draft where
  slots : Slots
  path : List String

def Draft.add (draft : Draft) : Statement → Option Draft
  | .heading path => (draft.slots.declare path).map fun slots => { slots, path }
  | .row path => (draft.slots.append path).map fun slots => { slots, path }
  | .pair path node =>
      (draft.slots.within (Slots.assign node true path) draft.path).map fun slots =>
        { draft with slots }

def isAllowed (c : Char) : Bool :=
  c == '\n' || c == '\t' || (32 ≤ c.toNat && c.toNat != 127)

def document? (text : String) : Option Document := do
  let text := withLineFeeds (withoutMark text.toList)
  if text.all isAllowed then
    let statements ← readStatements [] text
    let draft ← statements.foldlM Draft.add { slots := [], path := [] }
    let root := draft.slots.node
    return .plain root root.depth .loosely
  else none

end PluginNaming.Bundled.Toml
