import PluginNaming.Name
import PluginNaming.Number.Numeral
import PluginNaming.Text.Blank
import PluginNaming.Url

set_option autoImplicit false

namespace PluginNaming

open Text Number

inductive Cause where
  | unexpected
  | ended (expected : String)
  | nameLength (kind : String) (name : List Char) (least most : Nat)
  | badUrl (defect : Url.Defect)
deriving DecidableEq

structure Stop where
  cause : Cause
  rest : List Char
deriving DecidableEq

def placeOf (text : String) (rest : List Char) : Nat :=
  text.length - rest.length

def Stop.fault (text : String) (stop : Stop) : Fault :=
  match stop.cause with
  | .unexpected => .pointing text (placeOf text stop.rest)
  | .ended expected => .endOfText text expected
  | .nameLength kind name least most =>
      .nameLength kind (String.ofList name) name.length least most
  | .badUrl defect => .invalidUrl text ⟨defect, some (placeOf text stop.rest)⟩

inductive Taken (α : Type) where
  | token (value : α) (rest : List Char)
  | absent
  | failed (stop : Stop)

-- The longest run of name characters, whatever its length; its length is checked only then.
def takeName (kind : NameKind) (text : List Char) : Taken (Name kind) :=
  match text with
  | [] => .absent
  | first :: others =>
      if kind.initial first then
        let name := first :: others.takeWhile kind.part
        let rest := others.dropWhile kind.part
        if valid : kind.admits name = true then
          .token ⟨String.ofList name, by rw [String.toList_ofList]; exact valid⟩ rest
        else .failed ⟨.nameLength kind.label name kind.least kind.most, rest⟩
      else .absent

def unescape? (c : Char) : Option Char :=
  if c = '"' ∨ c = '\'' ∨ c = '\\' then some c
  else if c = 'n' then some '\n'
  else if c = 'r' then some '\r'
  else if c = 't' then some '\t'
  else if c = '0' then some '\x00'
  else none

def readString : List Char → Except Stop (List Char × List Char)
  | [] => .error ⟨.ended "closing '\"'", []⟩
  | c :: rest =>
      if c = '"' then .ok ([], rest)
      else if c = '\\' then
        match rest with
        | [] => .error ⟨.ended "escaped character", []⟩
        | e :: after =>
            match unescape? e with
            | none => .error ⟨.unexpected, e :: after⟩
            | some plain => (readString after).map fun read => (plain :: read.1, read.2)
      else (readString rest).map fun read => (c :: read.1, read.2)

theorem read_string_shorter {text value rest : List Char}
    (found : readString text = .ok (value, rest)) : rest.length < text.length := by
  fun_induction readString text generalizing value rest with
  | case1 => simp at found
  | case2 rest' => simp_all
  | case3 => simp at found
  | case4 => simp at found
  | case5 _ after plain _ _ hypothesis =>
      cases inner : readString after with
      | error stop => simp [inner, Except.map] at found
      | ok read =>
          have shorter := hypothesis inner
          simp only [inner, Except.map, Except.ok.injEq, Prod.mk.injEq] at found
          simp only [← found.2, List.length_cons]
          omega
  | case6 c rest' _ _ hypothesis =>
      cases inner : readString rest' with
      | error stop => simp [inner, Except.map] at found
      | ok read =>
          have shorter := hypothesis inner
          simp only [inner, Except.map, Except.ok.injEq, Prod.mk.injEq] at found
          simp only [← found.2, List.length_cons]
          omega

def takeString (text : List Char) : Taken String :=
  match text with
  | [] => .absent
  | c :: rest =>
      if c = '"' then
        match readString rest with
        | .ok (value, after) => .token (String.ofList value) after
        | .error stop => .failed stop
      else .absent

def skipGroup (depth : Nat) (text : List Char) : Except Stop (List Char) :=
  match text with
  | [] => .error ⟨.ended "')'", []⟩
  | c :: rest =>
      if c = '"' then
        match _found : readString rest with
        | .ok (_, after) => skipGroup depth after
        | .error stop => .error stop
      else if c = '(' then skipGroup (depth + 1) rest
      else if c = ')' then
        match depth with
        | 0 => .ok rest
        | outer + 1 => skipGroup outer rest
      else skipGroup depth rest
termination_by text.length
decreasing_by
  · have shorter := read_string_shorter _found
    simp only [List.length_cons]
    omega
  all_goals simp

theorem skip_group_shorter {depth : Nat} {text rest : List Char}
    (found : skipGroup depth text = .ok rest) : rest.length < text.length := by
  fun_induction skipGroup depth text with
  | case1 => simp at found
  | case2 depth rest' value after read hypothesis =>
      have inner := hypothesis found
      have string := read_string_shorter read
      simp only [List.length_cons]
      omega
  | case3 => simp at found
  | case4 depth rest' _ hypothesis =>
      have inner := hypothesis found
      simp only [List.length_cons]
      omega
  | case5 rest' =>
      simp only [Except.ok.injEq] at found
      simp [found]
  | case6 rest' _ _ outer hypothesis =>
      have inner := hypothesis found
      simp only [List.length_cons]
      omega
  | case7 depth c rest' _ _ _ hypothesis =>
      have inner := hypothesis found
      simp only [List.length_cons]
      omega

def takeGroup (text : List Char) : Taken String :=
  match text with
  | [] => .absent
  | c :: inner =>
      if c = '(' then
        match skipGroup 0 inner with
        | .ok rest => .token (String.ofList (text.take (text.length - rest.length))) rest
        | .error stop => .failed stop
      else .absent

def takeWord (text : List Char) : List Char :=
  text.takeWhile fun c => !isBlank c

def dropWord (text : List Char) : List Char :=
  text.dropWhile fun c => !isBlank c

def takeUrl [UrlLibrary] (text : List Char) : Taken Url :=
  if takeWord text = [] then .absent
  else
    match Url.parse (String.ofList (takeWord text)) with
    | .ok url => .token url (dropWord text)
    | .error _ => .absent

def takeVariable (text : List Char) : Taken (Name .environment) :=
  match text with
  | [] => .absent
  | c :: rest =>
      if c = '$' then
        match takeName .environment rest with
        | .absent => .failed ⟨.unexpected, rest⟩
        | taken => taken
      else .absent

def takeNumber (text : List Char) : Taken Binary64 :=
  match Numeral.take? text with
  | some (numeral, rest) => .token numeral.value rest
  | none => .absent

theorem take_name_shorter (kind : NameKind) (text rest : List Char) (name : Name kind)
    (found : takeName kind text = .token name rest) : rest.length < text.length := by
  cases text with
  | nil => simp [takeName] at found
  | cons first others =>
      simp only [takeName] at found
      split at found
      · split at found
        · simp only [Taken.token.injEq] at found
          have bound := (List.dropWhile_suffix (l := others) kind.part).length_le
          rw [found.2] at bound
          simp only [List.length_cons]
          omega
        · simp at found
      · simp at found

theorem take_url_length [UrlLibrary] (text rest : List Char) (url : Url)
    (found : takeUrl text = .token url rest) : rest.length ≤ text.length := by
  simp only [takeUrl] at found
  split at found
  · simp at found
  · split at found
    · simp only [Taken.token.injEq] at found
      rw [← found.2]
      exact (List.dropWhile_suffix _).length_le
    · simp at found

theorem take_string_shorter (text rest : List Char) (value : String)
    (found : takeString text = .token value rest) : rest.length < text.length := by
  cases text with
  | nil => simp [takeString] at found
  | cons c inner =>
      simp only [takeString] at found
      split at found
      · split at found
        · rename_i after read
          simp only [Taken.token.injEq] at found
          have shorter := read_string_shorter read
          simp only [← found.2, List.length_cons]
          omega
        · simp at found
      · simp at found

theorem take_variable_shorter (text rest : List Char) (name : Name .environment)
    (found : takeVariable text = .token name rest) : rest.length < text.length := by
  cases text with
  | nil => simp [takeVariable] at found
  | cons c inner =>
      simp only [takeVariable] at found
      split at found
      · split at found
        · simp at found
        · have shorter := take_name_shorter _ _ _ _ found
          simp only [List.length_cons]
          omega
      · simp at found

theorem take_number_shorter (text rest : List Char) (value : Binary64)
    (found : takeNumber text = .token value rest) : rest.length < text.length := by
  simp only [takeNumber] at found
  split at found
  · rename_i numeral left taken
    simp only [Taken.token.injEq] at found
    rw [← found.2]
    exact Numeral.take_shorter taken
  · simp at found

theorem take_group_shorter (text rest : List Char) (value : String)
    (found : takeGroup text = .token value rest) : rest.length < text.length := by
  cases text with
  | nil => simp [takeGroup] at found
  | cons c inner =>
      simp only [takeGroup] at found
      split at found
      · split at found
        · rename_i after skipped
          simp only [Taken.token.injEq] at found
          have shorter := skip_group_shorter skipped
          simp only [← found.2, List.length_cons]
          omega
        · simp at found
      · simp at found

end PluginNaming
