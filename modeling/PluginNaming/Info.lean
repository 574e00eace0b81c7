import PluginNaming.Listed

set_option autoImplicit false

namespace PluginNaming

open Text

variable [UrlLibrary]

structure Info (kind : NameKind) where
  url : Url
  name : Name kind
deriving DecidableEq

namespace Info

variable {kind : NameKind}

def text (info : Info kind) : String :=
  info.url.text ++ " " ++ info.name.text

def rename (info : Info kind) (name : Name kind) : Info kind :=
  { info with name }

def urlStop (text : List Char) : Stop :=
  let word := if skipBlanks text = [] then text else takeWord (skipBlanks text)
  match Url.parse (String.ofList word) with
  | .error defect => ⟨.badUrl defect, text⟩
  | .ok _ => ⟨.unexpected, text⟩

def read (kind : NameKind) (text : List Char) : Except Stop (Info kind × List Char) :=
  if text = [] then .error ⟨.ended "url", []⟩
  else
    match takeUrl text with
    | .token url afterUrl =>
        if startsBlank afterUrl then
          match takeName kind (skipBlanks afterUrl) with
          | .token name rest => .ok ({ url, name }, rest)
          | .absent => .error ⟨.unexpected, skipBlanks afterUrl⟩
          | .failed stop => .error stop
        else .error ⟨.unexpected, afterUrl⟩
    | _ => .error (urlStop text)

def parse (kind : NameKind) (text : String) : Except Fault (Info kind) :=
  match read kind text.toList with
  | .error stop => .error (stop.fault text)
  | .ok (info, rest) => if rest = [] then .ok info else .error (.pointing text (placeOf text rest))

instance : Ord (Info kind) :=
  ⟨fun a b => (compare a.name b.name).then (compare a.url.text b.url.text)⟩

instance : Std.TransOrd (Info kind) :=
  inferInstanceAs (Std.TransCmp
    (compareLex (compareOn Info.name) (compareOn fun info : Info kind => info.url.text)))

instance : Std.LawfulEqOrd (Info kind) where
  compare_self {a} := by
    show (compare a.name a.name).then (compare a.url.text a.url.text) = .eq
    simp
  eq_of_compare {a b} same := by
    have both : compare a.name b.name = .eq ∧ compare a.url.text b.url.text = .eq :=
      Ordering.then_eq_eq.mp same
    have name := Std.LawfulEqOrd.eq_of_compare both.1
    have url := Url.eq_of_text _ _ (Std.LawfulEqOrd.eq_of_compare both.2)
    cases a
    cases b
    cases name
    cases url
    rfl

def entry (kind : NameKind) : EntryReader (Info kind) where
  read := read kind
  shorter text value rest found := by
    simp only [read] at found
    split at found
    · simp at found
    · split at found
      · rename_i url afterUrl taken
        have urlBound := take_url_length text afterUrl url taken
        have blankBound := skip_blanks_length afterUrl
        split at found
        · split at found
          · rename_i name left takenName
            have nameBound := take_name_shorter kind _ _ name takenName
            simp only [Except.ok.injEq, Prod.mk.injEq] at found
            rw [← found.2]
            omega
          · simp at found
          · simp at found
        · simp at found
      · simp at found

end Info

end PluginNaming
