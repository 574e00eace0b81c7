import PluginNaming.Proofs.Fold
import PluginNaming.Proofs.InfoSet.Grammar
import PluginNaming.Proofs.Name

set_option autoImplicit false

namespace PluginNaming

open Text

variable {kind : NameKind}

theorem place_behind (text : String) (front rest : List Char) (whole : text.toList = front ++ rest) :
    placeOf text rest = front.length := by
  have lengths := congrArg List.length whole
  rw [String.length_toList, List.length_append] at lengths
  rw [placeOf, lengths, Nat.add_sub_cancel]

theorem stop_url_iff (stop : Stop) (text subject : String) (fault : UrlFault) :
    stop.fault text = .invalidUrl subject fault ↔
      subject = text ∧ ∃ rest, stop = ⟨.badUrl fault.defect, rest⟩ ∧
        fault.place = some (placeOf text rest) := by
  obtain ⟨cause, rest⟩ := stop
  obtain ⟨defect, place⟩ := fault
  cases cause with
  | unexpected =>
      simp only [Stop.fault, Fault.pointing]
      split <;> simp
  | ended expected => simp [Stop.fault]
  | nameLength label name least most => simp [Stop.fault]
  | badUrl other =>
      simp only [Stop.fault]
      grind

section Urls

variable [UrlLibrary]

def Refused (text : List Char) (defect : Url.Defect) : Prop :=
  ∃ word rest, FrontWord text word rest ∧ word ≠ [] ∧ Url.parse (String.ofList word) = .error defect

-- What is told of a text that starts with no url. Its first word is refused, which may have blanks before
-- it; where the text has no word, the blanks themselves are.
inductive Urlless : List Char → Url.Defect → Prop where
  | word (gap : Gap) (rest : List Char) (defect : Url.Defect) (refused : Refused rest defect) :
      Urlless (gap.blanks ++ rest) defect
  | blank (gap : Gap) (wide : gap.blanks ≠ []) (defect : Url.Defect)
      (unread : Url.parse (String.ofList gap.blanks) = .error defect) : Urlless gap.blanks defect

theorem refused_begins (text : List Char) (defect : Url.Defect) (refused : Refused text defect) :
    ∃ c more, text = c :: more ∧ isBlank c = false := by
  obtain ⟨word, rest, ⟨rfl, visible, _⟩, some, _⟩ := refused
  obtain ⟨c, more, rfl⟩ := List.exists_cons_of_ne_nil some
  exact ⟨c, more ++ rest, rfl, visible c List.mem_cons_self⟩

theorem refused_shown (text : List Char) (defect : Url.Defect) (refused : Refused text defect) :
    Stops isBlank text := by
  obtain ⟨c, more, rfl, visible⟩ := refused_begins text defect refused
  exact stops_cons _ c more visible

theorem refused_untaken (text : List Char) (defect : Url.Defect) (refused : Refused text defect)
    (url : Url) (left : List Char) : takeUrl text ≠ .token url left := by
  obtain ⟨word, rest, front, _, unread⟩ := refused
  intro taken
  obtain ⟨_, other, parsed⟩ := (url_present_iff text word rest front).mp ⟨url, left, taken⟩
  cases unread.symm.trans parsed

theorem blank_untaken (text : List Char) (blank : startsBlank text = true) (url : Url)
    (left : List Char) : takeUrl text ≠ .token url left := by
  cases text with
  | nil => cases blank
  | cons c more =>
      have first : isBlank c = true := blank
      simp [takeUrl, takeWord, first]

theorem urlless_shown (text : List Char) (defect : Url.Defect) (blamed : Urlless text defect)
    (shown : Stops isBlank text) : Refused text defect := by
  have whole : skipBlanks text = text := Gap.none.skip text shown
  cases blamed with
  | word gap rest _ refused =>
      rw [gap.skip rest (refused_shown rest defect refused)] at whole
      exact whole ▸ refused
  | blank gap wide =>
      rw [gap.skip_all] at whole
      exact absurd whole.symm wide

namespace Info

theorem read_untaken (text : List Char) (some : text ≠ [])
    (untaken : ∀ url left, takeUrl text ≠ .token url left) :
    read kind text = .error (urlStop text) := by
  rw [read, if_neg some]
  split
  · rename_i url left taken
    exact absurd taken (untaken url left)
  · rfl

theorem url_stop_word (gap : Gap) (rest : List Char) (defect : Url.Defect)
    (refused : Refused rest defect) :
    urlStop (gap.blanks ++ rest) = ⟨.badUrl defect, gap.blanks ++ rest⟩ := by
  have skipped := gap.skip rest (refused_shown rest defect refused)
  obtain ⟨c, more, shape, _⟩ := refused_begins rest defect refused
  have some : rest ≠ [] := shape ▸ List.cons_ne_nil c more
  obtain ⟨word, left, front, _, unread⟩ := refused
  simp only [urlStop, skipped, if_neg some, (front_word_unique _ _ _ front).1, unread]

theorem url_stop_blank (gap : Gap) (defect : Url.Defect)
    (unread : Url.parse (String.ofList gap.blanks) = .error defect) :
    urlStop gap.blanks = ⟨.badUrl defect, gap.blanks⟩ := by
  simp only [urlStop, gap.skip_all, if_pos, unread]

theorem url_stop_urlless (text rest : List Char) (defect : Url.Defect) (some : text ≠ [])
    (stopped : urlStop text = ⟨.badUrl defect, rest⟩) : rest = text ∧ Urlless text defect := by
  simp only [urlStop] at stopped
  split at stopped
  · rename_i unread
    cases stopped
    refine ⟨rfl, ?_⟩
    by_cases empty : skipBlanks text = []
    · rw [if_pos empty] at unread
      exact .blank ⟨text, all_blank text empty⟩ some defect unread
    · rw [if_neg empty] at unread
      have first : takeWord (skipBlanks text) ≠ [] := by
        have visible := starts_blank_skip_blanks text
        obtain ⟨c, more, shape⟩ := List.exists_cons_of_ne_nil empty
        rw [shape] at visible ⊢
        have shown : isBlank c = false := visible
        simp [takeWord, shown]
      have told := Urlless.word (.before text) _ defect ⟨_, _, front_word _, first, unread⟩
      rwa [Gap.before_append] at told
  · cases stopped

theorem read_refused_iff (text rest : List Char) (defect : Url.Defect) :
    read kind text = .error ⟨.badUrl defect, rest⟩ ↔ rest = text ∧ Urlless text defect := by
  constructor
  · intro failed
    simp only [read] at failed
    split at failed
    · cases failed
    · rename_i some
      split at failed
      · split at failed
        · split at failed
          · cases failed
          · cases failed
          · rename_i named
            cases failed
            obtain ⟨_, _, _, _, shape⟩ := (take_name_failed_iff _ _).mp named
            cases shape
        · cases failed
      · exact url_stop_urlless text rest defect some (Except.error.inj failed)
  · rintro ⟨rfl, blamed⟩
    cases blamed with
    | word gap text _ refused =>
        have some : gap.blanks ++ text ≠ [] := by
          obtain ⟨c, more, rfl, _⟩ := refused_begins text defect refused
          simp
        have untaken : ∀ url left, takeUrl (gap.blanks ++ text) ≠ .token url left := by
          by_cases wide : gap.blanks = []
          · rw [wide]
            exact refused_untaken text defect refused
          · exact blank_untaken _ (gap.starts wide text)
        rw [read_untaken _ some untaken, url_stop_word gap text defect refused]
    | blank gap wide _ unread =>
        have starts := gap.starts wide []
        rw [List.append_nil] at starts
        rw [read_untaken _ wide (blank_untaken _ starts), url_stop_blank gap defect unread]

theorem parse_refused_iff (text subject : String) (fault : UrlFault) :
    parse kind text = .error (.invalidUrl subject fault) ↔
      subject = text ∧ fault.place = some 0 ∧ Urlless text.toList fault.defect := by
  have start : placeOf text text.toList = 0 := place_behind text [] text.toList rfl
  unfold parse
  constructor
  · intro failed
    split at failed
    · rename_i stop unread
      obtain ⟨same, rest, rfl, place⟩ := (stop_url_iff _ _ _ _).mp (Except.error.inj failed)
      obtain ⟨rfl, blamed⟩ := (read_refused_iff _ _ _).mp unread
      exact ⟨same, start ▸ place, blamed⟩
    · split at failed
      · cases failed
      · rename_i rest _ _
        have pointed : (Stop.fault text ⟨.unexpected, rest⟩) = .invalidUrl subject fault :=
          Except.error.inj failed
        obtain ⟨_, _, none, _⟩ := (stop_url_iff _ _ _ _).mp pointed
        cases none
  · rintro ⟨rfl, place, blamed⟩
    rw [(read_refused_iff _ _ _).mpr ⟨rfl, blamed⟩]
    exact congrArg Except.error ((stop_url_iff _ _ _ _).mpr ⟨rfl, _, rfl, start ▸ place⟩)

theorem spelled_suffix (text : List Char) (info : Info kind) (rest : List Char)
    (spelled : Spelled text info rest) : rest <:+ text := by
  obtain ⟨front, _, shape⟩ := spelled_named text rest info spelled
  exact ⟨front ++ info.name.text.toList, by rw [shape, List.append_assoc]⟩

end Info

namespace InfoSet

theorem of_list_untold (infos : List (Info kind)) (subject : String) (fault : UrlFault) :
    ofList infos ≠ .error (.invalidUrl subject fault) := by
  intro failed
  obtain ⟨set, info, _, blamed⟩ := fold_failed add infos empty _ failed
  unfold add at blamed
  split at blamed
  · cases blamed
  · split at blamed <;> cases blamed

theorem parse_refused (text subject : String) (fault : UrlFault)
    (failed : parse kind text = .error (.invalidUrl subject fault)) :
    subject = text ∧ ∃ front rest, text.toList = front ++ rest ∧
      (∀ c ∈ front.getLast?, isDivider c = true) ∧ Due (@Info.Spelled kind _) text.toList rest ∧
        Refused rest fault.defect ∧ fault.place = some front.length := by
  rcases (bind_error_iff _ _ _).mp failed with unread | ⟨infos, _, refused⟩
  · obtain ⟨stop, stopsAt, told⟩ := listed_failed _ Info.Spelled "info" Info.entry_sound text _ unread
    obtain ⟨same, rest, rfl, place⟩ := (stop_url_iff _ _ _ _).mp told.symm
    rcases stopsAt with ⟨begun, due, shown, read⟩ | unexpected | ended
    · obtain ⟨rfl, blamed⟩ := (Info.read_refused_iff _ _ _).mp read
      obtain ⟨front, whole, divided⟩ := due_behind Info.Spelled Info.spelled_suffix _ _ due
      rw [place_behind text front rest whole] at place
      refine ⟨same, front, rest, whole, ?_, due, urlless_shown rest _ blamed shown, place⟩
      intro c last
      simpa [isDivider] using divided c last
    · cases unexpected
    · cases ended
  · exact absurd refused (of_list_untold infos subject fault)

theorem refused_parse (avoids : kind.Avoids isDivider) (text : String) (front rest : List Char)
    (defect : Url.Defect) (whole : text.toList = front ++ rest)
    (due : Due (@Info.Spelled kind _) text.toList rest) (refused : Refused rest defect) :
    parse kind text = .error (.invalidUrl text ⟨defect, some front.length⟩) := by
  have shown := refused_shown rest defect refused
  obtain ⟨c, more, shape, _⟩ := refused_begins rest defect refused
  have some : rest ≠ [] := shape ▸ List.cons_ne_nil c more
  have read : (Info.entry kind).read rest = .error ⟨.badUrl defect, rest⟩ :=
    (Info.read_refused_iff _ _ _).mpr ⟨rfl, Urlless.word .none rest defect refused⟩
  have failed := due_failed (Info.entry kind) Info.Spelled "info" _ (Info.entry_follows avoids) text rest due
    shown some (entries_refused _ "info" _ rest read)
  refine (bind_error_iff _ _ _).mpr (.inl (failed.trans ?_))
  rw [Stop.fault, place_behind text front rest whole]

end InfoSet

theorem url_faults_placed (kind : NameKind) :
    (∀ text subject fault, Info.parse kind text = .error (.invalidUrl subject fault) ↔
        subject = text ∧ fault.place = some 0 ∧ Urlless text.toList fault.defect) ∧
      (∀ text subject fault, Info.parse kind text = .error (.invalidUrl subject fault) →
        fault.reason = s!"{fault.defect.reason} at {0}" ∧
          (Refused text.toList fault.defect ↔ startsBlank text.toList = false)) ∧
      (∀ text subject fault, InfoSet.parse kind text = .error (.invalidUrl subject fault) →
        subject = text ∧ ∃ front rest, text.toList = front ++ rest ∧
          (∀ c ∈ front.getLast?, isDivider c = true) ∧ Due (@Info.Spelled kind _) text.toList rest ∧
            Refused rest fault.defect ∧ fault.reason = s!"{fault.defect.reason} at {front.length}") ∧
      (kind.Avoids isDivider → ∀ text front rest defect, text.toList = front ++ rest →
        Due (@Info.Spelled kind _) text.toList rest → Refused rest defect →
          InfoSet.parse kind text = .error (.invalidUrl text ⟨defect, some front.length⟩)) := by
  refine ⟨Info.parse_refused_iff, ?_, ?_, InfoSet.refused_parse⟩
  · intro text subject fault failed
    obtain ⟨_, place, urlless⟩ := (Info.parse_refused_iff _ _ _).mp failed
    refine ⟨by rw [UrlFault.reason, place], ?_⟩
    constructor
    · intro refused
      obtain ⟨c, more, shape, visible⟩ := refused_begins _ _ refused
      rw [shape]
      exact visible
    · intro visible
      refine urlless_shown _ _ urlless ?_
      cases shape : text.toList with
      | nil => exact stops_nil _
      | cons c more =>
          rw [shape] at visible
          exact stops_cons _ c more visible
  · intro text subject fault failed
    obtain ⟨same, front, rest, whole, divided, due, refused, place⟩ :=
      InfoSet.parse_refused text subject fault failed
    exact ⟨same, front, rest, whole, divided, due, refused, by rw [UrlFault.reason, place]⟩

end Urls

section Sample

attribute [local instance] UrlLibrary.sample

-- No word begins at the place that is told of an info with a blank in front; of a list it is the next.
theorem url_fault_misplaced :
    let defect : Url.Defect := .refused "relative URL without a base"
    Info.parse .plugin " x" = .error (.invalidUrl " x" ⟨defect, some 0⟩) ∧
      (∀ other, ¬ Refused " x".toList other) ∧
      Refused ['x'] defect ∧
      InfoSet.parse .plugin " x" = .error (.invalidUrl " x" ⟨defect, some 1⟩) := by
  intro defect
  let space : Gap := ⟨[' '], rfl⟩
  have unread : Url.parse (String.ofList ['x']) = .error defect := rfl
  have visible : ∀ c ∈ ['x'], isBlank c = false := by
    intro c member
    cases List.mem_singleton.mp member
    rfl
  have refused : Refused ['x'] defect :=
    ⟨['x'], [], ⟨rfl, visible, stops_nil _⟩, List.cons_ne_nil _ _, unread⟩
  refine ⟨?_, ?_, refused, ?_⟩
  · exact (Info.parse_refused_iff _ _ _).mpr ⟨rfl, rfl, .word space ['x'] defect refused⟩
  · intro other begun
    obtain ⟨c, more, shape, visible⟩ := refused_begins _ _ begun
    cases shape
    cases visible
  · exact InfoSet.refused_parse plugin_separable.divided " x" [' '] ['x'] defect rfl
      (.first space ['x'] rfl) refused

end Sample

end PluginNaming
