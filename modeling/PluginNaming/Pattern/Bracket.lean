import PluginNaming.Pattern.Escape

set_option autoImplicit false

namespace PluginNaming.Pattern

open PluginNaming.Text

-- Of the parts of a set only one thing matters, and only among bytes: whether they hold what is beyond
-- ASCII, of which they always hold all or nothing.
structure Bracket where
  negated : Bool
  left : Option (Char × Bool)
  wide : Bool

namespace Bracket

def isWide (bracket : Bracket) : Bool :=
  match bracket.left with
  | none => bracket.wide
  | some (operation, left) =>
      if operation = '&' then left && bracket.wide
      else if operation = '-' then left && !bracket.wide
      else left != bracket.wide

def operate (bracket : Bracket) (operation : Char) : Bracket :=
  { bracket with left := some (operation, bracket.isWide), wide := false }

def isClosable (flags : Flags) (bracket : Bracket) : Bool :=
  flags.unicode || bracket.isWide == bracket.negated

def startsHyphen : List Char → Bool
  | '-' :: _ => true
  | _ => false

def pastHyphens (flags : Flags) (text : List Char) : Tail text :=
  match text with
  | '-' :: rest =>
      let next := skipSpace flags rest
      (next.andThen (pastHyphens flags next.1)).cons '-' |>.toTail
  | text => .whole text
termination_by text.length
decreasing_by exact Nat.lt_succ_of_le next.2

def open? (flags : Flags) (text : List Char) : Option (Bracket × Tail text) :=
  let first := skipSpace flags text
  let negated := first.1.head? == some '^'
  let second : Tail text :=
    if negated then first.andThen ((Tail.drop 1 first.1).andThen (skipSpace flags _)) else first
  let literal := startsHyphen second.1 || second.1.head? == some ']'
  let third : Tail text :=
    if startsHyphen second.1 then second.andThen (pastHyphens flags second.1)
    else if literal then second.andThen (.drop 1 second.1)
    else second
  if literal && !(Escaped.letter '-' false).standsInside flags then none
  else some ({ negated, left := none, wide := false }, third)

end Bracket

def classNames : List String :=
  ["alnum", "alpha", "ascii", "blank", "cntrl", "digit", "graph", "lower", "print", "punct", "space",
    "upper", "word", "xdigit"]

def readNamed? (text : List Char) : Option (Bool × Tail text) :=
  match text with
  | ':' :: rest =>
      let negated := rest.head? == some '^'
      let start : Tail rest := if negated then .drop 1 rest else .whole rest
      let name := start.1.takeWhile (· != ':')
      match _found : start.1.drop name.length with
      | ':' :: ']' :: _ =>
          if classNames.contains (String.ofList name) then
            some (negated, ((start.andThen (.drop (name.length + 2) start.1)).cons ':').toTail)
          else none
      | _ => none
  | _ => none

def readItem? (flags : Flags) (c : Char) (rest : List Char) : Option (Escaped × Tail rest) :=
  if c = '\\' then readEscape? flags rest else some (.letter c false, .whole rest)

-- At most one mark of a comment is passed over, and where nothing else is left, the first letter counts.
def peek? (flags : Flags) (text : List Char) : Option Char :=
  if flags.spaced then
    let next :=
      match skipBlanks text with
      | '#' :: rest => skipBlanks rest
      | next => next
    next.head?.or text.head?
  else text.head?

def readRange? (flags : Flags) (c : Char) (rest : List Char) : Option (Tail rest) := do
  let (first, behind) ← readItem? flags c rest
  if !first.standsInside flags then none
  else
    let next := behind.andThen (skipSpace flags behind.1)
    match next.1 with
    | [] => none
    | '-' :: more =>
        if [some ']', some '-'].contains (peek? flags more) then some next
        else
          let hyphen := next.andThen (.drop 1 next.1)
          let place := hyphen.andThen (skipSpace flags hyphen.1)
          match place.1 with
          | [] => none
          | d :: _ => do
              let start := place.andThen (.drop 1 place.1)
              let (last, after) ← readItem? flags d start.1
              match first, last with
              | .letter low _, .letter high _ =>
                  if low ≤ high ∧ last.standsInside flags then some (start.andThen after) else none
              | _, _ => none
    | _ => some next

end PluginNaming.Pattern
