import PluginNaming.Token

set_option autoImplicit false

namespace PluginNaming

open Text

structure EntryReader (α : Type) where
  read : List Char → Except Stop (α × List Char)
  shorter : ∀ text value rest, read text = .ok (value, rest) → rest.length < text.length

def readEntries {α : Type} (entry : EntryReader α) (expected : String) (text : List Char) :
    Except Stop (List α) :=
  match _found : entry.read text with
  | .error stop => .error stop
  | .ok (first, rest) =>
      match _after : skipBlanks rest with
      | [] => .ok [first]
      | c :: more =>
          if c = ',' then
            match _next : skipBlanks more with
            | [] => .error ⟨.ended expected, []⟩
            | d :: others => (readEntries entry expected (d :: others)).map (first :: ·)
          else .error ⟨.unexpected, c :: more⟩
termination_by text.length
decreasing_by
  have inner := entry.shorter _ _ _ _found
  have left := skip_blanks_length rest
  have right := skip_blanks_length more
  rw [_after] at left
  rw [_next] at right
  simp only [List.length_cons] at left right ⊢
  omega

def readListed {α : Type} (entry : EntryReader α) (expected : String) (text : String) :
    Except Fault (List α) :=
  match skipBlanks text.toList with
  | [] => .ok []
  | c :: rest => (readEntries entry expected (c :: rest)).mapError (Stop.fault text)

end PluginNaming
