import PluginNaming.Pattern.Bracket
import PluginNaming.Text.Letter

set_option autoImplicit false

namespace PluginNaming.Pattern

open PluginNaming.Text

structure State where
  flags : Flags
  groups : List Flags
  names : List (List Char)
  repeatable : Bool
  brackets : List Bracket

namespace State

def start : State :=
  { flags := .usual, groups := [], names := [], repeatable := false, brackets := [] }

def isComplete (state : State) : Bool := state.groups.isEmpty && state.brackets.isEmpty

def placed (state : State) : State := { state with repeatable := true }

end State

def flagLetters : List Char := ['-', 'i', 'm', 's', 'u', 'U', 'R', 'x']

def readFlags? (seen : List Char) (flags : Flags) :
    (text : List Char) → Option (Bool × Flags × Tail text)
  | [] => none
  | c :: rest =>
      if c = ':' ∨ c = ')' then
        if seen.head? = some '-' ∨ (c = ')' ∧ seen.isEmpty) then none
        else some (c == ':', flags, (Rest.tail c rest).toTail)
      else if seen.contains c || !flagLetters.contains c then none
      else
        (readFlags? (c :: seen) (flags.change c (!seen.contains '-')) rest).map
          fun (isGroup, flags, after) => (isGroup, flags, (after.cons c).toTail)

def isName : List Char → Bool
  | [] => false
  | c :: rest =>
      (c == '_' || isLetter c) &&
        rest.all fun c => ['_', '.', '[', ']'].contains c || isLetterOrNumber c

def readName? (text : List Char) : Option (List Char × Tail text) :=
  let name := text.takeWhile (· != '>')
  if isName name && name.length < text.length then some (name, .drop (name.length + 1) text)
  else none

namespace State

def openGroup (state : State) (flags : Flags) : State :=
  { state with flags, groups := state.flags :: state.groups, repeatable := false }

def openNamed? (state : State) (text : List Char) : Option (State × Tail text) := do
  let (name, after) ← readName? text
  if state.names.contains name then none
  else some ({ state.openGroup state.flags with names := name :: state.names }, after)

def open? (state : State) (text : List Char) : Option (State × Tail text) :=
  let next := skipSpace state.flags text
  let behind := fun (count : Nat) => next.andThen (.drop count next.1)
  match next.1 with
  | '?' :: 'P' :: '<' :: _ =>
      (state.openNamed? (behind 3).1).map fun (state, after) => (state, (behind 3).andThen after)
  | '?' :: '<' :: _ =>
      (state.openNamed? (behind 2).1).map fun (state, after) => (state, (behind 2).andThen after)
  | '?' :: _ => do
      let (isGroup, flags, after) ← readFlags? [] state.flags (behind 1).1
      return (if isGroup then state.openGroup flags else { state with flags, repeatable := false },
        (behind 1).andThen after)
  | _ => some (state.openGroup state.flags, next)

def outside? (state : State) (c : Char) (rest : List Char) : Option (State × Tail rest) :=
  if c = '(' then state.open? rest
  else if c = ')' then
    match state.groups with
    | [] => none
    | flags :: groups => some ({ state.placed with flags, groups }, .whole rest)
  else if c = '|' then some ({ state with repeatable := false }, .whole rest)
  else if c = '[' then
    (Bracket.open? state.flags rest).map fun (bracket, after) =>
      ({ state with brackets := [bracket] }, after)
  else if c = '?' ∨ c = '*' ∨ c = '+' then
    let lazy := rest.head? == some '?'
    if state.repeatable then some (state, if lazy then .drop 1 rest else .whole rest) else none
  else if c = '\x7b' then none
  else if c = '.' then if state.flags.unicode then some (state.placed, .whole rest) else none
  else if c = '^' ∨ c = '$' then some (state.placed, .whole rest)
  else do
    let (escaped, after) ← readItem? state.flags c rest
    if escaped.stands state.flags then some (state.placed, after) else none

def inside? (state : State) (bracket : Bracket) (outer : List Bracket) (c : Char)
    (rest : List Char) : Option (State × Tail rest) :=
  if c = '[' then
    match readNamed? rest with
    | some (negated, after) =>
        if (Escaped.letter 'a' false).standsInside state.flags then
          let bracket := { bracket with wide := bracket.wide || negated }
          some ({ state with brackets := bracket :: outer }, after)
        else none
    | none =>
        (Bracket.open? state.flags rest).map fun (inner, after) =>
          ({ state with brackets := inner :: bracket :: outer }, after)
  else if c = ']' then
    if bracket.isClosable state.flags then
      some ({ state.placed with brackets := outer }, .whole rest)
    else none
  else if (c = '&' ∨ c = '-' ∨ c = '~') ∧ rest.head? = some c then
    some ({ state with brackets := bracket.operate c :: outer }, .drop 1 rest)
  else (readRange? state.flags c rest).map fun after => (state, after)

def step? (state : State) (c : Char) (rest : List Char) : Option (State × Tail rest) :=
  match state.brackets with
  | [] => state.outside? c rest
  | bracket :: outer => state.inside? bracket outer c rest

def accepts (state : State) (text : List Char) : Bool :=
  let next := skipSpace state.flags text
  match _found : next.1 with
  | [] => state.isComplete
  | c :: rest =>
      match state.step? c rest with
      | none => false
      | some (state, after) => accepts state after.1
termination_by text.length
decreasing_by
  have bound := next.2
  have shorter := after.2
  rw [_found, List.length_cons] at bound
  omega

end State

def isPattern (text : List Char) : Bool := State.start.accepts text

end PluginNaming.Pattern
