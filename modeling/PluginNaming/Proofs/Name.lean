import PluginNaming.Proofs.Scanner
import PluginNaming.Proofs.Selector.Word
import PluginNaming.Selector.Evaluation

set_option autoImplicit false

namespace PluginNaming

variable {kind : NameKind}

structure NameKind.Run (kind : NameKind) (text run rest : List Char) : Prop where
  some : run ≠ []
  spelled : kind.spells run = true
  whole : text = run ++ rest
  ends : Stops kind.part rest

theorem run_of_initial (first : Char) (others : List Char) (initial : kind.initial first = true) :
    kind.Run (first :: others) (first :: others.takeWhile kind.part) (others.dropWhile kind.part) where
  some := List.cons_ne_nil _ _
  spelled := by rw [NameKind.spells, initial, take_all]; rfl
  whole := by rw [List.cons_append, List.takeWhile_append_dropWhile]
  ends := stops_drop kind.part others

theorem run_initial (text run rest : List Char) (begun : kind.Run text run rest) :
    ∃ first parts, run = first :: parts ∧ kind.initial first = true ∧ parts.all kind.part = true := by
  obtain ⟨some, spelled, _, _⟩ := begun
  cases run with
  | nil => exact absurd rfl some
  | cons first parts =>
      rw [NameKind.spells, Bool.and_eq_true] at spelled
      exact ⟨first, parts, rfl, spelled⟩

theorem run_taken (text run rest : List Char) (begun : kind.Run text run rest)
    (fits : kind.fits run.length = true) :
    ∃ name : Name kind, name.text.toList = run ∧ takeName kind text = .token name rest := by
  have valid : kind.admits run = true := by
    rw [NameKind.admits, begun.spelled, fits]
    rfl
  let name : Name kind := ⟨String.ofList run, by rw [String.toList_ofList]; exact valid⟩
  have letters : name.text.toList = run := String.toList_ofList
  have some : name.text ≠ "" := fun empty => begun.some (by rw [← letters, empty]; rfl)
  refine ⟨name, letters, ?_⟩
  rw [begun.whole, ← letters]
  exact take_name_written name rest some begun.ends

-- The whole stretch is refused, and no shorter name is taken in its place.
theorem run_refused (text run rest : List Char) (begun : kind.Run text run rest)
    (misfit : kind.fits run.length = false) :
    takeName kind text = .failed ⟨.nameLength kind.label run kind.least kind.most, rest⟩ := by
  obtain ⟨first, parts, rfl, initial, all⟩ := run_initial text run rest begun
  have taken := take_run kind.part parts rest all begun.ends
  have left := drop_run kind.part parts rest all begun.ends
  have refused : kind.admits (first :: parts) = false := by rw [NameKind.admits, misfit, Bool.and_false]
  rw [begun.whole, List.cons_append]
  simp only [takeName, initial, taken, left, refused, ↓reduceIte, Bool.false_eq_true, ↓reduceDIte]

theorem take_name_cases (text : List Char) :
    takeName kind text = .absent ∧ Stops kind.initial text ∨
      ∃ run rest, kind.Run text run rest ∧
        ((∃ name : Name kind, name.text.toList = run ∧ takeName kind text = .token name rest) ∨
          kind.fits run.length = false ∧
            takeName kind text = .failed ⟨.nameLength kind.label run kind.least kind.most, rest⟩) := by
  cases text with
  | nil => exact .inl ⟨rfl, stops_nil _⟩
  | cons first others =>
      by_cases initial : kind.initial first = true
      · have begun := run_of_initial first others initial
        refine .inr ⟨_, _, begun, ?_⟩
        by_cases fits : kind.fits (first :: others.takeWhile kind.part).length = true
        · exact .inl (run_taken _ _ _ begun fits)
        · have misfit := Bool.eq_false_iff.mpr fits
          exact .inr ⟨misfit, run_refused _ _ _ begun misfit⟩
      · have other := Bool.eq_false_iff.mpr initial
        exact .inl ⟨no_name first others other, stops_cons _ first others other⟩

theorem take_name_absent_iff (text : List Char) :
    takeName kind text = .absent ↔ Stops kind.initial text := by
  constructor
  · intro absent
    rcases take_name_cases text with ⟨_, stops⟩ | ⟨run, rest, _, ⟨name, _, taken⟩ | ⟨_, failed⟩⟩
    · exact stops
    · cases absent.symm.trans taken
    · cases absent.symm.trans failed
  · intro stops
    cases text with
    | nil => rfl
    | cons first others => exact no_name first others (stops first rfl)

theorem take_name_iff (text rest : List Char) (name : Name kind) :
    takeName kind text = .token name rest ↔ kind.Run text name.text.toList rest := by
  constructor
  · intro found
    rcases take_name_cases text with ⟨absent, _⟩ | ⟨run, left, begun, ⟨other, letters, taken⟩ | ⟨_, failed⟩⟩
    · cases found.symm.trans absent
    · cases found.symm.trans taken
      exact letters ▸ begun
    · cases found.symm.trans failed
  · intro begun
    have some : name.text ≠ "" := fun empty => begun.some (by rw [empty]; rfl)
    rw [begun.whole]
    exact take_name_written name rest some begun.ends

theorem take_name_failed_iff (text : List Char) (stop : Stop) : takeName kind text = .failed stop ↔
    ∃ run rest, kind.Run text run rest ∧ kind.fits run.length = false ∧
      stop = ⟨.nameLength kind.label run kind.least kind.most, rest⟩ := by
  constructor
  · intro refused
    rcases take_name_cases text with ⟨absent, _⟩ | ⟨run, rest, begun, ⟨name, _, taken⟩ | ⟨misfit, failed⟩⟩
    · cases refused.symm.trans absent
    · cases refused.symm.trans taken
    · cases refused.symm.trans failed
      exact ⟨run, rest, begun, misfit, rfl⟩
  · rintro ⟨run, rest, begun, misfit, rfl⟩
    exact run_refused text run rest begun misfit

namespace Name

theorem parse_text (name : Name kind) : parse kind name.text = .ok name := by
  unfold parse
  rw [dif_pos name.valid]

theorem text_of_parse (text : String) (name : Name kind) (parsed : parse kind text = .ok name) :
    name.text = text := by
  unfold parse at parsed
  split at parsed
  · cases parsed
    rfl
  · split at parsed
    · cases parsed
    · cases parsed

theorem whole_run_iff (least : 0 < kind.least) (text : String) (name : Name kind) :
    parse kind text = .ok name ↔ kind.Run text.toList name.text.toList [] := by
  constructor
  · intro parsed
    have same := text_of_parse text name parsed
    subst same
    obtain ⟨first, others, shape, initial, parts⟩ := name_head name (name_some least name)
    refine ⟨by rw [shape]; exact List.cons_ne_nil _ _, ?_, (List.append_nil _).symm, stops_nil _⟩
    rw [shape, NameKind.spells, initial, parts]
    rfl
  · intro begun
    have same := begun.whole
    rw [List.append_nil] at same
    rw [String.toList_inj.mp same]
    exact name.parse_text

theorem take_failed_iff (scanner : Scanner) (fault : Fault) :
    (scanner.take (takeName kind)).1 = .error fault ↔
      ∃ run rest, kind.Run scanner.rest run rest ∧ kind.fits run.length = false ∧
        fault = kind.lengthFault run := by
  rw [Scanner.take_error_iff]
  constructor
  · rintro ⟨stop, failed, rfl⟩
    obtain ⟨run, rest, begun, misfit, rfl⟩ := (take_name_failed_iff _ _).mp failed
    exact ⟨run, rest, begun, misfit, rfl⟩
  · rintro ⟨run, rest, begun, misfit, rfl⟩
    exact ⟨_, run_refused _ run rest begun misfit, rfl⟩

theorem take_absent_iff (scanner next : Scanner) :
    scanner.take (takeName kind) = (.ok none, next) ↔ next = scanner ∧ Stops kind.initial scanner.rest := by
  rw [Scanner.take_none_iff, take_name_absent_iff, and_comm]

theorem taken_run (scanner next : Scanner) (name : Name kind)
    (taken : scanner.take (takeName kind) = (.ok (some name), next)) :
    next.since scanner.place = name.text ∧ kind.Run scanner.rest name.text.toList next.rest := by
  obtain ⟨rest, found, rfl⟩ := (Scanner.take_some_iff _ _ _ _).mp taken
  have begun := (take_name_iff _ _ _).mp found
  obtain ⟨moved, behind⟩ := scanner.moved _ rest begun.some begun.whole
  exact ⟨moved.slice.trans String.ofList_toList, behind.symm ▸ begun⟩

theorem run_take (scanner : Scanner) (run rest : List Char) (begun : kind.Run scanner.rest run rest)
    (fits : kind.fits run.length = true) : ∃ (name : Name kind) (next : Scanner),
      scanner.take (takeName kind) = (.ok (some name), next) ∧ name.text.toList = run ∧ next.rest = rest := by
  obtain ⟨name, letters, found⟩ := run_taken _ run rest begun fits
  have behind := (scanner.moved run rest begun.some begun.whole).2
  exact ⟨name, _, (Scanner.take_some_iff _ _ _ _).mpr ⟨rest, found, rfl⟩, letters, behind⟩

theorem start_taken_iff (text : String) (name : Name kind) : kind.Run text.toList name.text.toList [] ↔
    ∃ next, (Scanner.start text).take (takeName kind) = (.ok (some name), next) ∧ next.isAtEnd = true := by
  have start : (Scanner.start text).rest = text.toList := List.drop_zero
  constructor
  · intro begun
    have behind := ((Scanner.start text).moved _ [] begun.some begun.whole).2
    refine ⟨_, (Scanner.take_some_iff _ _ _ _).mpr ⟨[], (take_name_iff _ _ _).mpr begun, rfl⟩, ?_⟩
    rw [Scanner.isAtEnd, behind]
    rfl
  · rintro ⟨next, taken, ended⟩
    have begun := (taken_run _ _ _ taken).2
    rw [start, List.isEmpty_iff.mp ended] at begun
    exact begun

theorem take_parse_agree (least : 0 < kind.least) :
    (∀ (scanner next : Scanner) (name : Name kind),
      scanner.take (takeName kind) = (.ok (some name), next) →
        parse kind (next.since scanner.place) = .ok name ∧
          kind.Run scanner.rest name.text.toList next.rest) ∧
      (∀ (scanner : Scanner) (run rest : List Char), kind.Run scanner.rest run rest →
        kind.fits run.length = true → ∃ (name : Name kind) (next : Scanner),
          scanner.take (takeName kind) = (.ok (some name), next) ∧
            name.text.toList = run ∧ next.rest = rest) ∧
      (∀ (scanner : Scanner) (fault : Fault), (scanner.take (takeName kind)).1 = .error fault ↔
        ∃ run rest, kind.Run scanner.rest run rest ∧ kind.fits run.length = false ∧
          fault = kind.lengthFault run) ∧
      (∀ scanner next : Scanner, scanner.take (takeName kind) = (.ok none, next) ↔
        next = scanner ∧ Stops kind.initial scanner.rest) ∧
      (∀ (text : String) (name : Name kind), parse kind text = .ok name ↔
        ∃ next, (Scanner.start text).take (takeName kind) = (.ok (some name), next) ∧
          next.isAtEnd = true) ∧
      (∀ name : Name kind, parse kind name.text = .ok name) ∧
      ∀ (σ τ : Type) (selector : Selector kind) (lookup : Lookup) (call : Call kind σ τ),
        (do
          let _ ← liftExcept (parse kind selector.name.text)
          selector.evaluate lookup call) = selector.evaluate lookup call := by
  refine ⟨?_, run_take, take_failed_iff, take_absent_iff, ?_, parse_text, ?_⟩
  · intro scanner next name taken
    obtain ⟨slice, begun⟩ := taken_run scanner next name taken
    exact ⟨slice.symm ▸ name.parse_text, begun⟩
  · intro text name
    rw [whole_run_iff least, start_taken_iff]
  · intro σ τ selector lookup call
    rw [selector.name.parse_text]
    rfl

theorem take_parse_agree_accented :
    let kind : NameKind :=
      ⟨"code", "Code", fun c => c == 'É', fun c => c == 'é' || c.isDigit, 2, 4⟩
    let name : Name kind := ⟨"Éé77", by decide⟩
    0 < kind.least ∧
      (⟨"-Éé77É", 1⟩ : Scanner).take (takeName kind) = (.ok (some name), ⟨"-Éé77É", 5⟩) ∧
      parse kind "Éé77" = .ok name ∧
      ((⟨"-Éé77é", 1⟩ : Scanner).take (takeName kind)).1 = .error (kind.lengthFault "Éé77é".toList) ∧
      ∀ short : Name kind, parse kind "É" ≠ .ok short := by
  intro kind name
  have least : 0 < kind.least := by decide
  obtain ⟨sound, _, refused, _, whole, _⟩ := take_parse_agree least
  have taken : (⟨"-Éé77É", 1⟩ : Scanner).take (takeName kind) = (.ok (some name), ⟨"-Éé77É", 5⟩) := rfl
  refine ⟨least, taken, (sound _ _ name taken).1, ?_, ?_⟩
  · refine (refused _ _).mpr ⟨"Éé77é".toList, [], ⟨?_, rfl, rfl, stops_nil _⟩, rfl, rfl⟩
    exact List.cons_ne_nil _ _
  · intro short parsed
    obtain ⟨next, found, _⟩ := (whole "É" short).mp parsed
    cases found

end Name

end PluginNaming
