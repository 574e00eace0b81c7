import PluginNaming.Text.CodePoint
import PluginNaming.Text.Pieces

set_option autoImplicit false

namespace PluginNaming.Text

-- A row has the code point of its first character and says for this one and each behind it in turn which
-- characters stand for it: `61` one, `61+300` several, `61..7A` one each for so many, and `-` none.
abbrev Rows := List (Nat × String)

def codePoint (digits : List Char) : Nat := (ofHex? digits).getD 0

def entriesOfWord (word : List Char) : List (Option (List Nat)) :=
  match pieces (· == '.') word with
  | [['-']] => [none]
  | [first, [], last] =>
      (List.range' (codePoint first) (codePoint last + 1 - codePoint first)).map fun point =>
        some [point]
  | _ => [some ((pieces (· == '+') word).map codePoint)]

def entriesOfRow (text : String) : List (Option (List Nat)) :=
  (pieces (· == ' ') text.toList).flatMap entriesOfWord

def Rows.row? (point : Nat) : Rows → Option (Nat × String)
  | [] => none
  | row :: rest => if point < row.1 then none else (Rows.row? point rest).or (some row)

def Rows.find? (rows : Rows) (point : Nat) : Option (List Char) := do
  let (first, text) ← rows.row? point
  let entry ← (entriesOfRow text)[point - first]?
  return (← entry).map Char.ofNat

def Rows.entries (rows : Rows) : List (Nat × List Nat) :=
  rows.flatMap fun (first, text) =>
    (entriesOfRow text).zipIdx.filterMap fun (entry, place) =>
      entry.map fun points => (first + place, points)

def inRanges (ranges : List (Nat × Nat)) (point : Nat) : Bool :=
  ranges.any fun range => range.1 ≤ point && point ≤ range.2

end PluginNaming.Text
