import PluginNaming.Selector
import PluginNaming.Text.Rest

set_option autoImplicit false

namespace PluginNaming

open Number Text

mutual

inductive Argument (kind : NameKind) where
  | reference (name : Name .environment)
  | call (name : Name kind) (arguments : Arguments kind)
  | number (value : Binary64)
  | text (value : String)

inductive Arguments (kind : NameKind) where
  | none
  | more (first : Argument kind) (others : Arguments kind)
  | broken (stop : Stop)

end

inductive Lead (kind : NameKind) where
  | reference (name : Name .environment)
  | name (name : Name kind)
  | number (value : Binary64)
  | text (value : String)

def takeLead (kind : NameKind) (text : List Char) : Taken (Lead kind) :=
  match takeVariable text with
  | .failed stop => .failed stop
  | .token name rest => .token (.reference name) rest
  | .absent =>
      match takeName kind text with
      | .failed stop => .failed stop
      | .token name rest => .token (.name name) rest
      | .absent =>
          match takeNumber text with
          | .failed stop => .failed stop
          | .token value rest => .token (.number value) rest
          | .absent =>
              match takeString text with
              | .failed stop => .failed stop
              | .token value rest => .token (.text value) rest
              | .absent => .absent

theorem take_lead_shorter (kind : NameKind) (text rest : List Char) (lead : Lead kind)
    (found : takeLead kind text = .token lead rest) : rest.length < text.length := by
  simp only [takeLead] at found
  split at found
  · simp at found
  · rename_i taken
    simp only [Taken.token.injEq] at found
    exact found.2 ▸ take_variable_shorter _ _ _ taken
  · split at found
    · simp at found
    · rename_i taken
      simp only [Taken.token.injEq] at found
      exact found.2 ▸ take_name_shorter _ _ _ _ taken
    · split at found
      · simp at found
      · rename_i taken
        simp only [Taken.token.injEq] at found
        exact found.2 ▸ take_number_shorter _ _ _ taken
      · split at found
        · simp at found
        · rename_i taken
          simp only [Taken.token.injEq] at found
          exact found.2 ▸ take_string_shorter _ _ _ taken
        · simp at found

mutual

def readArgument {kind : NameKind} (lead : Lead kind) (text : List Char) :
    Argument kind × Option { rest : List Char // rest.length ≤ text.length } :=
  match lead with
  | .reference name => (.reference name, some ⟨text, Nat.le_refl _⟩)
  | .number value => (.number value, some ⟨text, Nat.le_refl _⟩)
  | .text value => (.text value, some ⟨text, Nat.le_refl _⟩)
  | .name name =>
      match _open : skipBlanks text with
      | [] => (.call name .none, some ⟨text, Nat.le_refl _⟩)
      | c :: inner =>
          if c = '(' then
            let (arguments, reached) := readArguments kind inner
            (.call name arguments, reached.map fun rest =>
              ⟨rest.1, by
                have bound := skip_blanks_length text
                have shorter := rest.2
                rw [_open, List.length_cons] at bound
                omega⟩)
          else (.call name .none, some ⟨text, Nat.le_refl _⟩)
termination_by (text.length, 0)
decreasing_by
  have bound := skip_blanks_length text
  rw [_open, List.length_cons] at bound
  simp only [Prod.lex_def]
  omega

def readArguments (kind : NameKind) (text : List Char) :
    Arguments kind × Option (Rest text) :=
  match _close : skipBlanks text with
  | [] => readMore kind text
  | c :: rest =>
      if c = ')' then
        (.none, some (.afterBlanks _close))
      else readMore kind text
termination_by (text.length, 2)

def readMore (kind : NameKind) (text : List Char) : Arguments kind × Option (Rest text) :=
  match _lead : takeLead kind (skipBlanks text) with
  | .failed stop => (.broken stop, none)
  | .absent =>
      if skipBlanks text = [] then (.broken ⟨.ended "parameter", []⟩, none)
      else (.broken ⟨.unexpected, skipBlanks text⟩, none)
  | .token lead afterLead =>
      match readArgument lead afterLead with
      | (first, none) => (.more first .none, none)
      | (first, some reached) =>
          match _next : skipBlanks reached.1 with
          | [] => (.more first (.broken ⟨.ended "')'", []⟩), none)
          | c :: rest =>
              if c = ')' then
                (.more first .none, some ⟨rest, by
                  have lead := take_lead_shorter _ _ _ _ _lead
                  have blanks := skip_blanks_length text
                  have bound := skip_blanks_length reached.1
                  have shorter := reached.2
                  rw [_next, List.length_cons] at bound
                  omega⟩)
              else if c = ',' then
                let (others, last) := readMore kind rest
                (.more first others, last.map fun left =>
                  ⟨left.1, by
                    have lead := take_lead_shorter _ _ _ _ _lead
                    have blanks := skip_blanks_length text
                    have bound := skip_blanks_length reached.1
                    have shorter := reached.2
                    have following := left.2
                    rw [_next, List.length_cons] at bound
                    omega⟩)
              else (.more first (.broken ⟨.unexpected, c :: rest⟩), none)
termination_by (text.length, 1)
decreasing_by
  · have lead := take_lead_shorter _ _ _ _ _lead
    have blanks := skip_blanks_length text
    simp only [Prod.lex_def]
    omega
  · have lead := take_lead_shorter _ _ _ _ _lead
    have blanks := skip_blanks_length text
    have bound := skip_blanks_length reached.1
    have shorter := reached.2
    rw [_next, List.length_cons] at bound
    simp only [Prod.lex_def]
    omega

end

namespace Arguments

variable {kind : NameKind}

def breakOff (stop : Stop) : Arguments kind → Arguments kind
  | .none => .broken stop
  | .more first others => .more first (others.breakOff stop)
  | .broken earlier => .broken earlier

def ofText (kind : NameKind) (text : List Char) : Arguments kind :=
  match skipBlanks text with
  | [] => .none
  | c :: inner =>
      if c = '(' then
        match readArguments kind inner with
        | (arguments, .none) => arguments
        | (arguments, .some rest) =>
            match skipBlanks rest.1 with
            | [] => arguments
            | d :: others => arguments.breakOff ⟨.unexpected, d :: others⟩
      else .broken ⟨.unexpected, c :: inner⟩

end Arguments

end PluginNaming
