import PluginNaming.Text.Blank
import PluginNaming.Text.CodePoint
import PluginNaming.Text.Rest

set_option autoImplicit false

namespace PluginNaming.Pattern

open PluginNaming.Text

structure Flags where
  ignoreCase : Bool
  unicode : Bool
  spaced : Bool

namespace Flags

def usual : Flags := { ignoreCase := false, unicode := true, spaced := false }

def change (flags : Flags) (letter : Char) (on : Bool) : Flags :=
  if letter = 'i' then { flags with ignoreCase := on }
  else if letter = 'u' then { flags with unicode := on }
  else if letter = 'x' then { flags with spaced := on }
  else flags

end Flags

def pastSpace (inComment : Bool) : List Char → List Char
  | [] => []
  | c :: rest =>
      if inComment then pastSpace (c != '\n') rest
      else if isBlank c then pastSpace false rest
      else if c = '#' then pastSpace true rest
      else c :: rest

theorem past_space_length (inComment : Bool) (text : List Char) :
    (pastSpace inComment text).length ≤ text.length := by
  induction text generalizing inComment with
  | nil => simp [pastSpace]
  | cons c rest hypothesis =>
      simp only [pastSpace, List.length_cons]
      split
      · exact Nat.le_succ_of_le (hypothesis _)
      · split
        · exact Nat.le_succ_of_le (hypothesis _)
        · split
          · exact Nat.le_succ_of_le (hypothesis _)
          · simp

def skipSpace (flags : Flags) (text : List Char) : Tail text :=
  if flags.spaced then ⟨pastSpace false text, past_space_length false text⟩ else .whole text

inductive Escaped where
  | letter (c : Char) (byte : Bool)
  | kind (negated : Bool)
  | edge (ofWord : Bool)

namespace Escaped

def stands (flags : Flags) : Escaped → Bool
  | .letter c byte => if flags.unicode then !flags.ignoreCase else !(byte && 0x80 ≤ c.toNat)
  | .kind negated => !flags.unicode && !negated
  | .edge ofWord => !(flags.unicode && ofWord)

def standsInside (flags : Flags) : Escaped → Bool
  | .letter c _ => if flags.unicode then !flags.ignoreCase else c.toNat < 0x80
  | .kind negated => !flags.unicode && !negated
  | .edge _ => false

end Escaped

def readHex? (flags : Flags) (total : Nat) : Nat → (text : List Char) → Option (Nat × Tail text)
  | 0, text => some (total, .whole text)
  | count + 1, text => do
      let next := skipSpace flags text
      match _found : next.1 with
      | [] => none
      | c :: _ =>
          let behind := next.rest (.behind (Nat.le_refl _) _found)
          let (value, after) ← readHex? flags (16 * total + (← hexDigit? c)) count behind.1
          return (value, (behind.followedBy after).toTail)

def controls : List (Char × Char) :=
  [('a', '\x07'), ('f', '\x0c'), ('t', '\t'), ('n', '\n'), ('r', '\r'), ('v', '\x0b')]

def digitCounts : List (Char × Nat) := [('x', 2), ('u', 4), ('U', 8)]

def escaped? (c : Char) : Option Escaped :=
  match controls.lookup c with
  | some control => some (.letter control false)
  | none =>
      if ['d', 's', 'w'].contains c then some (.kind false)
      else if ['D', 'S', 'W'].contains c then some (.kind true)
      else if ['A', 'z'].contains c then some (.edge false)
      else if ['b', 'B', '<', '>'].contains c then some (.edge true)
      else if c.toNat < 0x80 ∧ !c.isAlphanum then some (.letter c false)
      else none

def readEscape? (flags : Flags) (text : List Char) : Option (Escaped × Tail text) :=
  match text with
  | [] => none
  | c :: rest =>
      match digitCounts.lookup c with
      | none => (escaped? c).map fun escaped => (escaped, (Rest.tail c rest).toTail)
      | some count => do
          let (code, after) ← readHex? flags 0 count rest
          if code.isValidChar then
            some (.letter (Char.ofNat code) (c == 'x'), (after.cons c).toTail)
          else none

end PluginNaming.Pattern
