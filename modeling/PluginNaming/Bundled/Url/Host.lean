import PluginNaming.Bundled.Url.Label

set_option autoImplicit false

namespace PluginNaming.Bundled

open PluginNaming.Text

inductive Defect where
  | relative
  | emptyHost
  | port
  | fourBytes
  | eightPieces
  | domainCharacter
  | internationalName
  | cannotBeBase
  | missingHost
deriving DecidableEq

def Defect.reason : Defect → String
  | .relative => "relative URL without a base"
  | .emptyHost => "empty host"
  | .port => "invalid port number"
  | .fourBytes => "invalid IPv4 address"
  | .eightPieces => "invalid IPv6 address"
  | .domainCharacter => "invalid domain character"
  | .internationalName => "invalid international domain name"
  | .cannotBeBase => "cannot be a base"
  | .missingHost => "missing host"

inductive Host where
  | name (text : List Char)
  | fourBytes (address : Nat)
  | eightPieces (pieces : List Nat)
deriving DecidableEq

def byteNumber? (text : List Char) : Option Nat :=
  match text with
  | [] => none
  | '0' :: 'x' :: digits | '0' :: 'X' :: digits =>
      (digits.mapM hexValue?).map (·.foldl (fun total value => 16 * total + value) 0)
  | '0' :: d :: digits =>
      if (d :: digits).all fun c => '0' ≤ c && c ≤ '7' then
        some ((d :: digits).foldl (fun total c => 8 * total + (c.toNat - '0'.toNat)) 0)
      else none
  | digits =>
      if digits.all Char.isDigit then
        some (digits.foldl (fun total c => 10 * total + (c.toNat - '0'.toNat)) 0)
      else none

def domainParts (domain : List Char) : List (List Char) :=
  let parts := pieces (· == '.') domain
  if 1 < parts.length ∧ parts.getLast? = some [] then parts.dropLast else parts

def endsInNumber (domain : List Char) : Bool :=
  match (domainParts domain).getLast? with
  | none => false
  | some last => (!last.isEmpty && last.all Char.isDigit) || (byteNumber? last).isSome

def fourBytes? (domain : List Char) : Option Nat := do
  let parts := domainParts domain
  if 4 < parts.length then none
  else
    let numbers ← parts.mapM byteNumber?
    let last ← numbers.getLast?
    let before := numbers.dropLast
    if before.all (· ≤ 255) && last < Nat.pow 256 (4 - before.length) then
      return before.foldr (fun value total => value * 16777216 + total / 256) 0 + last
    else none

def takePiece (text : List Char) : List Char × List Char :=
  let digits := (text.take 4).takeWhile fun c => (hexValue? c).isSome
  (digits, text.drop digits.length)

theorem take_piece_length (text : List Char) : (takePiece text).2.length ≤ text.length := by
  simp [takePiece]

def pieceValue (digits : List Char) : Nat :=
  digits.foldl (fun total c => 16 * total + (hexValue? c).getD 0) 0

def tailByte? (digits : List Char) : Option Nat :=
  if digits.isEmpty || !digits.all Char.isDigit || (digits.head? == some '0' && digits.length ≠ 1)
  then none
  else
    let value := digits.foldl (fun total c => 10 * total + (c.toNat - '0'.toNat)) 0
    if value ≤ 255 then some value else none

def tailPieces? (text : List Char) : Option (List Nat) := do
  match ← (pieces (· == '.') text).mapM tailByte? with
  | [a, b, c, d] => return [256 * a + b, 256 * c + d]
  | _ => none

def readPieces? (pieces : List Nat) (gap : Option Nat) (text : List Char) :
    Option (List Nat × Option Nat) :=
  match text with
  | [] => some (pieces, gap)
  | ':' :: rest =>
      if gap.isSome ∨ 8 ≤ pieces.length then none else readPieces? pieces (some pieces.length) rest
  | c :: rest =>
      if 8 ≤ pieces.length then none
      else
        match _taken : takePiece (c :: rest) with
        | ([], _) => none
        | (digits, []) => some (pieces ++ [pieceValue digits], gap)
        | (digits, ':' :: following) =>
            if following.isEmpty then none
            else readPieces? (pieces ++ [pieceValue digits]) gap following
        | (_, '.' :: _) =>
            if 6 < pieces.length then none
            else (tailPieces? (c :: rest)).map fun tail => (pieces ++ tail, gap)
        | _ => none
termination_by text.length
decreasing_by
  · simp
  · have bound := take_piece_length (c :: rest)
    rw [_taken] at bound
    simp only [List.length_cons] at bound ⊢
    omega

def eightPieces? (text : List Char) : Option (List Nat) := do
  let (pieces, gap) ← match text with
    | ':' :: ':' :: rest => readPieces? [] (some 0) rest
    | ':' :: _ => none
    | _ => readPieces? [] none text
  match gap with
  | none => if pieces.length = 8 then some pieces else none
  | some before =>
      if pieces.length < 8 then
        some (pieces.take before ++ List.replicate (8 - pieces.length) 0 ++ pieces.drop before)
      else none

def bracketed? (text : List Char) : Except Defect Host :=
  match text.getLast? with
  | some ']' =>
      match eightPieces? (text.drop 1).dropLast with
      | some pieces => .ok (.eightPieces pieces)
      | none => .error .eightPieces
  | _ => .error .eightPieces

def Host.special (text : List Char) : Except Defect Host :=
  if text.head? = some '[' then bracketed? text
  else
    match domain? text with
    | none => .error .internationalName
    | some domain =>
        if domain.isEmpty then .error .emptyHost
        else if endsInNumber domain then
          match fourBytes? domain with
          | some address => .ok (.fourBytes address)
          | none => .error .fourBytes
        else .ok (.name domain)

def Host.opaqueHost (text : List Char) : Except Defect Host :=
  if text.head? = some '[' then bracketed? text
  else if text.any isForbiddenInHost then .error .domainCharacter
  else .ok (.name (percentEncode .controls text))

def longestGap (pieces : List Nat) : Nat × Nat :=
  let runs := (List.range pieces.length).map fun start =>
    (start, ((pieces.drop start).takeWhile (· == 0)).length)
  runs.foldl (fun best run => if best.2 < run.2 then run else best) (0, 0)

def printPieces (pieces : List Nat) : List Char :=
  join ':' (pieces.map (Nat.toDigits 16))

def Host.print : Host → List Char
  | .name text => text
  | .fourBytes address =>
      join '.' ([16777216, 65536, 256, 1].map fun weight =>
        Nat.toDigits 10 (address / weight % 256))
  | .eightPieces pieces =>
      let (start, length) := longestGap pieces
      let body :=
        if length < 2 then printPieces pieces
        else printPieces (pieces.take start) ++ [':', ':'] ++
          printPieces (pieces.drop (start + length))
      '[' :: body ++ [']']

end PluginNaming.Bundled
