import PluginNaming.Ordered.Sorted

set_option autoImplicit false

namespace PluginNaming.Bundled.Punycode

def digit (value : Nat) : Char :=
  if value < 26 then Char.ofNat ('a'.toNat + value) else Char.ofNat ('0'.toNat + (value - 26))

def digitValue? (c : Char) : Option Nat :=
  if 'a' ≤ c ∧ c ≤ 'z' then some (c.toNat - 'a'.toNat)
  else if 'A' ≤ c ∧ c ≤ 'Z' then some (c.toNat - 'A'.toNat)
  else if c.isDigit then some (c.toNat - '0'.toNat + 26)
  else none

def threshold (position bias : Nat) : Nat :=
  if position ≤ bias then 1 else min (position - bias) 26

theorem threshold_positive (position bias : Nat) : 0 < threshold position bias := by
  unfold threshold
  split <;> omega

def shrink (delta steps : Nat) : Nat × Nat :=
  if 455 < delta then shrink (delta / 35) (steps + 36) else (delta, steps)
termination_by delta
decreasing_by omega

def adapt (delta count : Nat) (first : Bool) : Nat :=
  let damped := if first then delta / 700 else delta / 2
  let (rest, steps) := shrink (damped + damped / count) 0
  steps + 36 * rest / (rest + 38)

def distance (bias position value : Nat) : List Char :=
  let limit := threshold position bias
  if value < limit then [digit value]
  else
    digit (limit + (value - limit) % (36 - limit)) ::
      distance bias (position + 36) ((value - limit) / (36 - limit))
termination_by value
decreasing_by
  have positive := threshold_positive position bias
  have small := Nat.div_le_self (value - threshold position bias) (36 - threshold position bias)
  omega

structure Progress where
  written : List Char
  delta : Nat
  bias : Nat
  count : Nat

def Progress.pass (basic : Nat) (point : Nat) (state : Progress) (c : Char) : Progress :=
  if c.toNat < point then { state with delta := state.delta + 1 }
  else if c.toNat = point then
    { written := state.written ++ distance state.bias 36 state.delta
      delta := 0
      bias := adapt state.delta (state.count + 1) (state.count == basic)
      count := state.count + 1 }
  else state

def Progress.insertPoint (label : List Char) (basic : Nat) (state : Nat × Progress)
    (point : Nat) : Nat × Progress :=
  let risen := { state.2 with delta := state.2.delta + (point - state.1) * (state.2.count + 1) }
  let passed := label.foldl (Progress.pass basic point) risen
  (point + 1, { passed with delta := passed.delta + 1 })

def encode (label : List Char) : List Char :=
  let basic := label.filter fun c => c.toNat < 0x80
  let points := Ordered.sorted ((label.filter fun c => 0x80 ≤ c.toNat).map Char.toNat)
  let start : Progress := { written := [], delta := 0, bias := 72, count := basic.length }
  let done := points.foldl (Progress.insertPoint label basic.length) (0x80, start)
  (if basic.isEmpty then [] else basic ++ ['-']) ++ done.2.written

def readDistance? (bias : Nat) : Nat → Nat → List Char → Option (Nat × List Char)
  | _, _, [] => none
  | position, weight, c :: rest => do
      let value ← digitValue? c
      let limit := threshold position bias
      if value < limit then return (value * weight, rest)
      else
        let (more, after) ← readDistance? bias (position + 36) (weight * (36 - limit)) rest
        return (value * weight + more, after)

theorem read_distance_shorter {bias position weight value : Nat} {text rest : List Char}
    (found : readDistance? bias position weight text = some (value, rest)) :
    rest.length < text.length := by
  induction text generalizing position weight value with
  | nil => simp [readDistance?] at found
  | cons c tail hypothesis =>
      simp only [readDistance?] at found
      cases first : digitValue? c with
      | none => simp [first] at found
      | some here =>
          simp only [first, Option.bind_eq_bind, Option.bind_some] at found
          split at found
          · simp only [Option.pure_def, Option.some.injEq, Prod.mk.injEq] at found
            simp [found.2]
          · cases more : readDistance? bias (position + 36)
                (weight * (36 - threshold position bias)) tail with
            | none => simp [more] at found
            | some pair =>
                simp only [more, Option.bind_some, Option.pure_def, Option.some.injEq,
                  Prod.mk.injEq] at found
                have same : readDistance? bias (position + 36)
                    (weight * (36 - threshold position bias)) tail = some (pair.1, rest) := by
                  rw [more, ← found.2]
                have shorter := hypothesis same
                simp only [List.length_cons]
                omega

def insertions? (bias point index : Nat) (built : List Char) (text : List Char) :
    Option (List Char) :=
  match text with
  | [] => some built
  | c :: tail =>
      match _found : readDistance? bias 36 1 (c :: tail) with
      | none => none
      | some (value, rest) =>
          let size := built.length + 1
          let moved := index + value
          let next := point + moved / size
          let place := moved % size
          if next < 0xD800 ∨ (0xDFFF < next ∧ next ≤ 0x10FFFF) then
            insertions? (adapt value size (index == 0)) next (place + 1)
              (built.take place ++ Char.ofNat next :: built.drop place) rest
          else none
termination_by text.length
decreasing_by exact read_distance_shorter (by assumption)

def decode? (text : List Char) : Option (List Char) :=
  let tail := (text.reverse.takeWhile (· != '-')).reverse
  let head := text.take (text.length - tail.length - 1)
  if text.any fun c => 0x80 ≤ c.toNat then none else insertions? 72 0x80 0 head tail

end PluginNaming.Bundled.Punycode
