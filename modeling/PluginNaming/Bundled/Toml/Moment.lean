import PluginNaming.Bundled.Node
import PluginNaming.Number.Numeral
import PluginNaming.Text.Rest

set_option autoImplicit false

namespace PluginNaming.Bundled.Toml

open PluginNaming.Data PluginNaming.Number PluginNaming.Text

structure Date where
  year : Nat
  month : Nat
  day : Nat

structure TimeOfDay where
  hour : Nat
  minute : Nat
  second : Nat
  nanosecond : Nat

inductive Offset where
  | none
  | greenwich
  | minutes (west : Bool) (size : Nat)

structure Moment where
  date : Option Date
  time : Option TimeOfDay
  offset : Offset

def monthLength (year month : Nat) : Nat :=
  let leap := year % 4 = 0 ∧ (year % 100 ≠ 0 ∨ year % 400 = 0)
  if month = 2 then if leap then 29 else 28
  else if [4, 6, 9, 11].contains month then 30
  else 31

def Date.isProper (date : Date) : Bool :=
  1 ≤ date.month && date.month ≤ 12 && 1 ≤ date.day && date.day ≤ monthLength date.year date.month

def TimeOfDay.isProper (time : TimeOfDay) : Bool :=
  time.hour < 24 && time.minute < 60 && time.second ≤ 60

def takeNumber? (width : Nat) (text : List Char) : Option (Nat × Tail text) :=
  let digits := (text.take width).takeWhile Char.isDigit
  if digits.length = width then some (ofDigits digits, ⟨text.drop width, by simp⟩) else none

def takeMark? (marks : List Char) (text : List Char) : Option (Char × Rest text) :=
  match text with
  | [] => none
  | c :: rest => if marks.contains c then some (c, Rest.tail c rest) else none

def nanoseconds (digits : List Char) : Nat :=
  ofDigits ((digits.take 9) ++ List.replicate (9 - digits.length) '0')

def takeFraction? (text : List Char) : Option (Nat × Rest text) :=
  match text with
  | '.' :: rest =>
      let digits := takeDigits rest
      if digits.isEmpty then none else some (nanoseconds digits, Rest.past '.' Char.isDigit rest)
  | _ => none

def takeDate? (text : List Char) : Option (Date × Rest text) := do
  let (year, a) ← takeNumber? 4 text
  let (_, b) ← takeMark? ['-'] a.1
  let (month, c) ← takeNumber? 2 b.1
  let (_, d) ← takeMark? ['-'] c.1
  let (day, e) ← takeNumber? 2 d.1
  let date : Date := { year, month, day }
  if date.isProper then some (date, (a.rest b).followedBy (c.andThen (d.toTail.andThen e)))
  else none

def takeTime? (text : List Char) : Option (TimeOfDay × Rest text) := do
  let (hour, a) ← takeNumber? 2 text
  let (_, b) ← takeMark? [':'] a.1
  let (minute, c) ← takeNumber? 2 b.1
  let (_, d) ← takeMark? [':'] c.1
  let (second, e) ← takeNumber? 2 d.1
  let whole := (a.rest b).followedBy (c.andThen (d.toTail.andThen e))
  let fraction := takeFraction? whole.1
  let time : TimeOfDay := { hour, minute, second, nanosecond := (fraction.map Prod.fst).getD 0 }
  if time.isProper then
    match fraction with
    | some (_, rest) => some (time, whole.andThen rest)
    | none => some (time, whole)
  else none

def takeOffset? (text : List Char) : Option (Offset × Tail text) :=
  match takeMark? ['Z', 'z', '+', '-'] text with
  | none => some (.none, .whole text)
  | some (sign, a) =>
      if sign = 'Z' ∨ sign = 'z' then some (.greenwich, a.toTail)
      else do
        let (hour, b) ← takeNumber? 2 a.1
        let (_, c) ← takeMark? [':'] b.1
        let (minute, d) ← takeNumber? 2 c.1
        if hour < 24 ∧ minute < 60 then
          some (.minutes (sign = '-') (60 * hour + minute),
            a.toTail.andThen (b.andThen (c.toTail.andThen d)))
        else none

def takeMoment? (text : List Char) : Option (Moment × Rest text) :=
  match takeDate? text with
  | none =>
      (takeTime? text).map fun (time, rest) =>
        ({ date := none, time := some time, offset := .none }, rest)
  | some (date, afterDate) =>
      let dated : Moment := { date := some date, time := none, offset := .none }
      match takeMark? ['T', 't', ' '] afterDate.1 with
      | none => some (dated, afterDate)
      | some (_, afterMark) =>
          match takeTime? afterMark.1 with
          | none => some (dated, afterDate)
          | some (time, afterTime) =>
              (takeOffset? afterTime.1).map fun (offset, rest) =>
                ({ date := some date, time := some time, offset },
                  (afterDate.andThen (afterMark.andThen afterTime)).followedBy rest)

def padded (width n : Nat) : List Char :=
  let digits := Nat.toDigits 10 n
  List.replicate (width - digits.length) '0' ++ digits

def Date.print (date : Date) : List Char :=
  padded 4 date.year ++ '-' :: padded 2 date.month ++ '-' :: padded 2 date.day

def TimeOfDay.print (time : TimeOfDay) : List Char :=
  let fraction :=
    if time.nanosecond = 0 then []
    else '.' :: ((padded 9 time.nanosecond).reverse.dropWhile (· == '0')).reverse
  padded 2 time.hour ++ ':' :: padded 2 time.minute ++ ':' :: padded 2 time.second ++ fraction

def Offset.print : Offset → List Char
  | .none => []
  | .greenwich => ['Z']
  | .minutes west size =>
      (if west && 0 < size then '-' else '+') :: padded 2 (size / 60) ++ ':' :: padded 2 (size % 60)

def Moment.print (moment : Moment) : List Char :=
  let date := (moment.date.map Date.print).getD []
  let mark := if moment.date.isSome && moment.time.isSome then ['T'] else []
  let time := (moment.time.map TimeOfDay.print).getD []
  date ++ mark ++ time ++ moment.offset.print

def momentKey : String := "$__toml_private_datetime"

def Moment.node (moment : Moment) : Node :=
  .ofValue (some (.object [(momentKey, .text (String.ofList moment.print))]))

end PluginNaming.Bundled.Toml
