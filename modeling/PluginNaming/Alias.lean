import PluginNaming.Listed
import PluginNaming.Selector

set_option autoImplicit false

namespace PluginNaming

open Text

namespace Alias

def requireName (kind : NameKind) (text : List Char) : Except Stop (Name kind × List Char) :=
  match takeName kind text with
  | .token name rest => .ok (name, rest)
  | .failed stop => .error stop
  | .absent => if text = [] then .error ⟨.ended kind.label, []⟩ else .error ⟨.unexpected, text⟩

theorem require_name_shorter {kind : NameKind} {text rest : List Char} {name : Name kind}
    (found : requireName kind text = .ok (name, rest)) : rest.length < text.length := by
  simp only [requireName] at found
  split at found
  · rename_i taken
    simp only [Except.ok.injEq, Prod.mk.injEq] at found
    exact found.2 ▸ take_name_shorter _ _ _ _ taken
  · simp at found
  · split at found <;> simp at found

def endsDeclaration (text : List Char) : Bool :=
  match text with
  | [] => true
  | c :: _ => c == ','

def readParameters (text : List Char) : Except Stop (String × List Char) :=
  match takeGroup (skipBlanks text) with
  | .token group rest => .ok (group, rest)
  | .absent => .ok ("", text)
  | .failed stop => .error stop

theorem read_parameters_length {text rest : List Char} {parameters : String}
    (found : readParameters text = .ok (parameters, rest)) : rest.length ≤ text.length := by
  have bound := skip_blanks_length text
  simp only [readParameters] at found
  split at found
  · rename_i taken
    have shorter := take_group_shorter _ _ _ taken
    simp only [Except.ok.injEq, Prod.mk.injEq] at found
    rw [← found.2]
    omega
  · simp only [Except.ok.injEq, Prod.mk.injEq] at found
    exact found.2 ▸ Nat.le_refl _
  · simp at found

end Alias

variable [UrlLibrary]

inductive Target (kind : NameKind) where
  | itself
  | renamed (selector : Selector kind)
  | published (selector : Selector kind) (url : Url)
deriving DecidableEq

structure Alias (kind : NameKind) where
  name : Name kind
  target : Target kind
deriving DecidableEq

namespace Alias

variable {kind : NameKind}

def selector? (declaration : Alias kind) : Option (Selector kind) :=
  match declaration.target with
  | .itself => none
  | .renamed selector => some selector
  | .published selector _ => some selector

def url? (declaration : Alias kind) : Option Url :=
  match declaration.target with
  | .published _ url => some url
  | _ => none

def isPlain (declaration : Alias kind) : Bool :=
  declaration.selector?.isNone

def ofParts (name : Name kind) (selector : Option (Selector kind)) (url : Option Url) :
    Except Fault (Alias kind) :=
  match selector, url with
  | none, none => .ok { name, target := .itself }
  | some selector, none => .ok { name, target := .renamed selector }
  | some selector, some url => .ok { name, target := .published selector url }
  | none, some _ => .error (.invalidAlias name.text .urlWithoutSelector)

def print (declaration : Alias kind) : String :=
  match declaration.target with
  | .itself => declaration.name.text
  | .renamed selector => declaration.name.text ++ " " ++ selector.print
  | .published selector url =>
      declaration.name.text ++ " " ++ selector.print ++ " " ++ url.text

def read (kind : NameKind) (text : List Char) : Except Stop (Alias kind × List Char) :=
  match requireName kind text with
  | .error stop => .error stop
  | .ok (name, afterName) =>
      if endsDeclaration (skipBlanks afterName) then
        .ok ({ name, target := .itself }, skipBlanks afterName)
      else if !startsBlank afterName then .error ⟨.unexpected, afterName⟩
      else
        match requireName kind (skipBlanks afterName) with
        | .error stop => .error stop
        | .ok (target, afterTarget) =>
            match readParameters afterTarget with
            | .error stop => .error stop
            | .ok (parameters, rest) =>
                let selector : Selector kind := { name := target, text := parameters }
                if endsDeclaration (skipBlanks rest) then
                  .ok ({ name, target := .renamed selector }, rest)
                else if !startsBlank rest then .error ⟨.unexpected, rest⟩
                else
                  match takeUrl (skipBlanks rest) with
                  | .token url afterUrl =>
                      .ok ({ name, target := .published selector url }, afterUrl)
                  | _ => .error ⟨.unexpected, skipBlanks rest⟩

def parse (kind : NameKind) (text : String) : Except Fault (Alias kind) :=
  match read kind (skipBlanks text.toList) with
  | .error stop => .error (stop.fault text)
  | .ok (declaration, rest) =>
      if skipBlanks rest = [] then .ok declaration
      else .error (.pointing text (placeOf text (skipBlanks rest)))

def entry (kind : NameKind) : EntryReader (Alias kind) where
  read := read kind
  shorter text value rest found := by
    simp only [read] at found
    split at found
    · simp at found
    · rename_i name afterName required
      have nameBound := require_name_shorter required
      have blankBound := skip_blanks_length afterName
      split at found
      · simp only [Except.ok.injEq, Prod.mk.injEq] at found
        rw [← found.2]
        omega
      · split at found
        · simp at found
        · split at found
          · simp at found
          · rename_i target afterTarget requiredTarget
            have targetBound := require_name_shorter requiredTarget
            split at found
            · simp at found
            · rename_i parameters left readLeft
              have leftBound := read_parameters_length readLeft
              have leftBlank := skip_blanks_length left
              split at found
              · simp only [Except.ok.injEq, Prod.mk.injEq] at found
                rw [← found.2]
                omega
              · split at found
                · simp at found
                · split at found
                  · rename_i url afterUrl taken
                    have urlBound := take_url_length _ _ _ taken
                    simp only [Except.ok.injEq, Prod.mk.injEq] at found
                    rw [← found.2]
                    omega
                  · simp at found

def order (a b : Alias kind) : Ordering :=
  (compare a.name b.name).then
    ((compare a.selector? b.selector?).then (compare (a.url?.map Url.text) (b.url?.map Url.text)))

instance : Ord (Alias kind) := ⟨order⟩

instance : Std.TransOrd (Alias kind) :=
  inferInstanceAs (Std.TransCmp (compareLex (compareOn Alias.name)
    (compareLex (compareOn Alias.selector?)
      (compareOn fun declaration : Alias kind => declaration.url?.map Url.text))))

end Alias

end PluginNaming
