import PluginNaming.Proofs.Fold
import PluginNaming.Proofs.Number.ReadBack
import PluginNaming.Proofs.Selector.Interpretation

set_option autoImplicit false

namespace PluginNaming

open Number

variable {kind : NameKind} {σ τ : Type}

def Parameter.interpret (lookup : Lookup) (call : Call kind σ τ) :
    Parameter kind → Action σ (Value τ)
  | .number value => return .number value
  | .text value => return .text value
  | .selector nested => do
      let values ← nested.evaluate lookup call
      let plugin ← call nested.name values
      return .provided plugin
  | .reference name =>
      match lookup name with
      | some value => return .environment value
      | none => throw (.unknownVariable name.text)

theorem Piece.of_escape (c : Char) : ∃ piece : Piece, piece.print = Selector.escape c ∧ piece.value = c := by
  unfold Selector.escape
  by_cases quote : c = '"'
  · exact ⟨.escape '"' '"' (by decide), by rw [if_pos quote]; rfl, quote.symm⟩
  · by_cases slash : c = '\\'
    · exact ⟨.escape '\\' '\\' (by decide), by rw [if_neg quote, if_pos slash]; rfl, slash.symm⟩
    · rw [if_neg quote, if_neg slash]
      split
      · rename_i feed
        exact ⟨.escape 'n' '\n' (by decide), rfl, feed.symm⟩
      · split
        · rename_i back
          exact ⟨.escape 'r' '\r' (by decide), rfl, back.symm⟩
        · split
          · rename_i tab
            exact ⟨.escape 't' '\t' (by decide), rfl, tab.symm⟩
          · split
            · rename_i null
              exact ⟨.escape '0' '\x00' (by decide), rfl, null.symm⟩
            · exact ⟨.plain c ⟨quote, slash⟩, rfl, rfl⟩

theorem Piece.of_escaped (text : List Char) :
    ∃ pieces : List Piece, pieces.flatMap Piece.print = text.flatMap Selector.escape ∧
      pieces.map Piece.value = text := by
  induction text with
  | nil => exact ⟨[], rfl, rfl⟩
  | cons c rest hypothesis =>
      obtain ⟨piece, printed, value⟩ := Piece.of_escape c
      obtain ⟨pieces, following, values⟩ := hypothesis
      refine ⟨piece :: pieces, ?_, ?_⟩
      · rw [List.flatMap_cons, List.flatMap_cons, printed, following]
      · rw [List.map_cons, value, values]

namespace Parameter

theorem print_number (value : Binary64) :
    Selector.printParameter (.number value : Parameter kind) =
      if value.isFinite then .ok (Style.plain.print value) else .error (.unsupportedValue value.text) :=
  rfl

theorem leaf_or_nested (parameter : Parameter kind) :
    (∀ nested, parameter ≠ .selector nested) ∨ ∃ nested, parameter = .selector nested := by
  cases parameter with
  | selector nested => exact .inr ⟨nested, rfl⟩
  | number value => exact .inl fun nested same => by cases same
  | text value => exact .inl fun nested same => by cases same
  | reference name => exact .inl fun nested same => by cases same

theorem word_written (parameter : Parameter kind) (text : List Char)
    (leaf : ∀ nested, parameter ≠ .selector nested)
    (printed : Selector.printParameter parameter = .ok text) :
    ∃ word : Word kind, word.print = text ∧ ∀ (σ τ : Type) (lookup : Lookup) (call : Call kind σ τ),
      word.interpret lookup call = parameter.interpret lookup call := by
  cases parameter with
  | number value =>
      rw [print_number] at printed
      by_cases finite : value.isFinite = true
      · obtain ⟨number, shape, same⟩ := NumberWord.written value finite
        rw [if_pos finite] at printed
        cases printed
        refine ⟨.number number, shape, fun _ _ lookup call => ?_⟩
        rw [Word.interpret, same]
        rfl
      · rw [if_neg finite] at printed
        cases printed
  | text value =>
      cases printed
      obtain ⟨pieces, shape, values⟩ := Piece.of_escaped value.toList
      refine ⟨.text pieces, ?_, fun _ _ lookup call => ?_⟩
      · rw [Word.print, shape]
        rfl
      · rw [Word.interpret, values, String.ofList_toList]
        rfl
  | selector nested => exact absurd rfl (leaf nested)
  | reference name =>
      cases printed
      exact ⟨.reference name, rfl, fun _ _ _ _ => rfl⟩

section Evaluation

variable (lookup : Lookup) (call : Call kind σ τ)

-- The blanks at the end of a nested text come to stand behind the term.
theorem selector_written (separable : kind.Separable) (least : 0 < kind.least)
    (nested : Selector kind) (phrase : Phrase kind) (spelled : phrase.print = nested.text.toList) :
    ∃ (term : Term kind) (gap : Gap),
      nested.name.text.toList ++ nested.text.toList = term.print ++ gap.blanks ∧
        Action.Alike (term.interpret lookup call) (interpret lookup call (.selector nested)) := by
  have some := name_some least nested.name
  have evaluated := nested.evaluate_phrase lookup call separable phrase spelled
  rw [interpret, evaluated, ← spelled]
  cases phrase with
  | blank gap =>
      refine ⟨.word (.name nested.name some), gap, rfl, ?_⟩
      exact .refl _
  | listed before group after =>
      refine ⟨.call nested.name some before group, after, by simp [Term.print, Phrase.print], ?_⟩
      rw [Term.interpret]
      refine .bind _ _ _ _ ?_ fun values => .refl _
      exact (Action.Alike.adapt _ nested.relocate_unplaced _).symm

theorem term_written (separable : kind.Separable) (least : 0 < kind.least)
    (parameter : Parameter kind) (text : List Char)
    (printed : Selector.printParameter parameter = .ok text)
    (spelled : ∀ nested, parameter = .selector nested →
      ∃ phrase : Phrase kind, phrase.print = nested.text.toList) :
    ∃ (term : Term kind) (gap : Gap), text = term.print ++ gap.blanks ∧
      Action.Alike (term.interpret lookup call) (parameter.interpret lookup call) := by
  rcases parameter.leaf_or_nested with leaf | ⟨nested, selects⟩
  · obtain ⟨word, shape, same⟩ := word_written parameter text leaf printed
    refine ⟨.word word, .none, ?_, ?_⟩
    · rw [← shape]
      exact (List.append_nil _).symm
    · rw [Term.interpret, same]
      exact .refl _
  · obtain ⟨phrase, shape⟩ := spelled nested selects
    subst selects
    cases printed
    exact selector_written lookup call separable least nested phrase shape

theorem joined_cons (text : List Char) (texts : List (List Char)) (some : texts ≠ []) :
    [',', ' '].intercalate (text :: texts) = text ++ ',' :: ' ' :: [',', ' '].intercalate texts := by
  rw [List.intercalate_cons_of_ne_nil some, List.append_assoc]
  rfl

theorem row_written (separable : kind.Separable) (least : 0 < kind.least) (first : Parameter kind)
    (others : List (Parameter kind)) (written : List (List Char)) (before : Gap)
    (printed : (first :: others).mapM Selector.printParameter = .ok written)
    (spelled : ∀ nested, .selector nested ∈ first :: others →
      ∃ phrase : Phrase kind, phrase.print = nested.text.toList) :
    ∃ row : Row kind, row.print = before.blanks ++ ([',', ' '].intercalate written ++ [')']) ∧
      Action.Alike (row.interpret lookup call) ((first :: others).mapM (interpret lookup call)) := by
  induction others generalizing first written before with
  | nil =>
      rw [List.mapM_cons, bind_ok_iff] at printed
      obtain ⟨text, one, rest⟩ := printed
      cases rest
      obtain ⟨term, gap, shape, alike⟩ := term_written lookup call separable least first text one
        fun nested selects => spelled nested (selects ▸ List.mem_cons_self)
      refine ⟨.last before term gap, ?_, ?_⟩
      · simp [Row.print, shape]
      · simp only [Row.interpret, List.mapM_cons, List.mapM_nil, pure_bind]
        exact .bind _ _ _ _ alike fun value => .refl _
  | cons second others hypothesis =>
      rw [List.mapM_cons, bind_ok_iff] at printed
      obtain ⟨text, one, rest⟩ := printed
      rw [bind_ok_iff] at rest
      obtain ⟨texts, following, whole⟩ := rest
      cases whole
      obtain ⟨term, gap, shape, alike⟩ := term_written lookup call separable least first text one
        fun nested selects => spelled nested (selects ▸ List.mem_cons_self)
      obtain ⟨row, remains, also⟩ := hypothesis second texts ⟨[' '], rfl⟩ following
        fun nested member => spelled nested (List.mem_cons_of_mem _ member)
      refine ⟨.more before term gap row, ?_, ?_⟩
      · rw [Row.print, remains, joined_cons text texts (map_some _ _ _ _ following), shape]
        simp
      · rw [Row.interpret, List.mapM_cons]
        exact .bind _ _ _ _ alike fun value => .bind _ _ _ _ also fun values => .refl _

theorem list_written (separable : kind.Separable) (least : 0 < kind.least)
    (selector written : Selector kind) (parameters : List (Parameter kind))
    (printed : selector.setParameters parameters = .ok written)
    (spelled : ∀ nested, .selector nested ∈ parameters →
      ∃ phrase : Phrase kind, phrase.print = nested.text.toList) :
    Action.Alike (written.evaluate lookup call) (parameters.mapM (interpret lookup call)) := by
  obtain ⟨texts, shape, whole⟩ := (bind_ok_iff _ _ _).mp printed
  cases whole
  cases parameters with
  | nil =>
      rw [Selector.evaluate_phrase _ lookup call separable (.blank .none) rfl]
      exact .adapt _ (Selector.relocate_unplaced _) _
  | cons first others =>
      obtain ⟨row, text, alike⟩ :=
        row_written lookup call separable least first others texts .none shape spelled
      let list : Selector kind :=
        ⟨selector.name, String.ofList ('(' :: [',', ' '].intercalate texts ++ [')'])⟩
      have listed : (Phrase.listed .none (.filled row) .none : Phrase kind).print = list.text.toList := by
        rw [String.toList_ofList]
        simp [Phrase.print, Group.print, text, Gap.none]
      have evaluated := list.evaluate_phrase lookup call separable _ listed
      have same : Action.Alike (list.evaluate lookup call) (row.interpret lookup call) := by
        rw [evaluated]
        exact .adapt _ list.relocate_unplaced _
      exact .trans _ _ _ same alike

end Evaluation

end Parameter

namespace Selector

variable (selector : Selector kind) (parameters : List (Parameter kind))

theorem print_parameter_failed (parameter : Parameter kind) (fault : Fault)
    (failed : printParameter parameter = .error fault) : ∃ value, parameter = .number value ∧
      value.isFinite = false ∧ fault = .unsupportedValue value.text := by
  cases parameter with
  | number value =>
      rw [Parameter.print_number] at failed
      split at failed
      · cases failed
      · rename_i infinite
        cases failed
        exact ⟨value, rfl, Bool.not_eq_true _ ▸ infinite, rfl⟩
  | text value => cases failed
  | selector nested => cases failed
  | reference name => cases failed

theorem print_parameter_written (parameter : Parameter kind)
    (finite : ∀ value, parameter = .number value → value.isFinite = true) :
    ∃ text, printParameter parameter = .ok text := by
  cases result : printParameter parameter with
  | ok text => exact ⟨text, rfl⟩
  | error fault =>
      obtain ⟨value, number, infinite, _⟩ := print_parameter_failed parameter fault result
      rw [finite value number] at infinite
      cases infinite

theorem set_parameters_failed (fault : Fault)
    (failed : selector.setParameters parameters = .error fault) :
    ∃ value, .number value ∈ parameters ∧ value.isFinite = false ∧
      fault = .unsupportedValue value.text := by
  have printed : parameters.mapM printParameter = .error fault := by
    unfold setParameters at failed
    cases result : parameters.mapM printParameter with
    | error other =>
        rw [result] at failed
        cases failed
        rfl
    | ok texts =>
        rw [result] at failed
        cases failed
  obtain ⟨parameter, member, failed⟩ := map_failed _ _ _ printed
  obtain ⟨value, rfl, infinite, same⟩ := print_parameter_failed parameter fault failed
  exact ⟨value, member, infinite, same⟩

theorem set_parameters_written
    (finite : ∀ value, .number value ∈ parameters → value.isFinite = true) :
    ∃ written, selector.setParameters parameters = .ok written := by
  obtain ⟨texts, printed⟩ := map_succeeds printParameter parameters fun parameter member =>
    print_parameter_written parameter fun value number => finite value (number ▸ member)
  exact ⟨_, (bind_ok_iff _ _ _).mpr ⟨texts, printed, rfl⟩⟩

theorem set_parameters_finite (written : Selector kind)
    (printed : selector.setParameters parameters = .ok written) (value : Binary64)
    (member : .number value ∈ parameters) : value.isFinite = true := by
  obtain ⟨texts, shape, _⟩ := (bind_ok_iff _ _ _).mp printed
  obtain ⟨text, one⟩ := map_ok _ _ _ shape _ member
  rw [Parameter.print_number] at one
  by_cases finite : value.isFinite = true
  · exact finite
  · rw [if_neg finite] at one
    cases one

theorem set_parameters_name (written : Selector kind)
    (printed : selector.setParameters parameters = .ok written) : written.name = selector.name := by
  obtain ⟨texts, _, whole⟩ := (bind_ok_iff _ _ _).mp printed
  cases whole
  rfl

theorem set_parameters_exact (separable : kind.Separable) (least : 0 < kind.least) :
    ((∀ value, .number value ∈ parameters → value.isFinite = true) →
      (∀ nested, .selector nested ∈ parameters →
        ∃ phrase : Phrase kind, phrase.print = nested.text.toList) →
      ∃ written, selector.setParameters parameters = .ok written ∧ written.name = selector.name ∧
        ∀ (σ τ : Type) (lookup : Lookup) (call : Call kind σ τ),
          Action.Alike (written.evaluate lookup call)
            (parameters.mapM (Parameter.interpret lookup call)) ∧
          Action.Alike (written.evaluate lookup call.logged)
            (parameters.mapM (Parameter.interpret lookup call.logged))) ∧
      ((∃ fault, selector.setParameters parameters = .error fault) ↔
        ∃ value, .number value ∈ parameters ∧ value.isFinite = false) ∧
      ∀ fault, selector.setParameters parameters = .error fault →
        ∃ value, .number value ∈ parameters ∧ value.isFinite = false ∧
          fault = .unsupportedValue value.text := by
  refine ⟨?_, ⟨?_, ?_⟩, ?_⟩
  · intro finite spelled
    obtain ⟨written, printed⟩ := set_parameters_written selector parameters finite
    refine ⟨written, printed, set_parameters_name selector parameters written printed, ?_⟩
    intro σ τ lookup call
    exact ⟨Parameter.list_written lookup call separable least selector written parameters printed spelled,
      Parameter.list_written lookup call.logged separable least selector written parameters printed
        spelled⟩
  · rintro ⟨fault, failed⟩
    obtain ⟨value, member, infinite, _⟩ := set_parameters_failed selector parameters fault failed
    exact ⟨value, member, infinite⟩
  · rintro ⟨value, member, infinite⟩
    cases result : selector.setParameters parameters with
    | error fault => exact ⟨fault, rfl⟩
    | ok written =>
        have finite := set_parameters_finite selector parameters written result value member
        rw [infinite] at finite
        cases finite
  · exact fun fault failed => set_parameters_failed selector parameters fault failed

-- Every call gives the number of calls before it, and the zero keeps its sign.
theorem set_parameters_mixed :
    let nested : Selector .plugin := ⟨⟨"beta", by decide⟩, "(gamma)"⟩
    let parameters : List (Parameter .plugin) :=
      [.number (.finite true ⟨0, by decide⟩), .text "a\"b)", .selector nested, .reference ⟨"home", by decide⟩]
    (NameKind.plugin.Separable ∧ 0 < NameKind.plugin.least) ∧
      ∃ written, setParameters ⟨⟨"alpha", by decide⟩, "(old)"⟩ parameters = .ok written ∧
        written.name = ⟨"alpha", by decide⟩ ∧
        ((written.evaluate (fun _ => some (.text "/")) fun _ _ count =>
          (.ok count, count + 1)).perform 0).1 =
          .ok [.number (.finite true ⟨0, by decide⟩), .text "a\"b)", .provided 1,
            .environment (.text "/")] := by
  intro nested parameters
  have phrase : ∃ phrase : Phrase .plugin, phrase.print = nested.text.toList ∧
      nested.evaluate (σ := Nat) (τ := Nat) (fun _ => some (.text "/"))
        (fun _ _ count => (.ok count, count + 1)) = fun count => (.ok [.provided count], count + 1) := by
    let gamma : Phrase .plugin := .listed .none (.filled (.last .none
      (.word (.name ⟨"gamma", by decide⟩ (by decide))) .none)) .none
    have shape : gamma.print = "(gamma)".toList := rfl
    refine ⟨gamma, shape, ?_⟩
    rw [nested.evaluate_phrase _ _ plugin_separable gamma shape]
    rfl
  obtain ⟨phrase, shape, evaluated⟩ := phrase
  have exact := set_parameters_exact ⟨⟨"alpha", by decide⟩, "(old)"⟩ parameters plugin_separable
    (by decide)
  have finite : ∀ value, .number value ∈ parameters → value.isFinite = true := by
    intro value member
    simp only [parameters, List.mem_cons, Parameter.number.injEq, reduceCtorEq, List.not_mem_nil,
      or_false] at member
    rw [member]
    rfl
  have spelled : ∀ selector, .selector selector ∈ parameters →
      ∃ phrase : Phrase .plugin, phrase.print = selector.text.toList := by
    intro selector member
    simp only [parameters, List.mem_cons, Parameter.selector.injEq, reduceCtorEq, List.not_mem_nil,
      or_false, false_or] at member
    exact ⟨phrase, member ▸ shape⟩
  obtain ⟨written, printed, kept, alike⟩ := exact.1 finite spelled
  refine ⟨⟨plugin_separable, by decide⟩, written, printed, kept, ?_⟩
  have walked := (alike Nat Nat (fun _ => some (.text "/")) fun _ _ count => (.ok count, count + 1)).1
  refine walked.symm.ok _ _ 0 _ ?_
  simp only [parameters, List.mapM_cons, Parameter.interpret, evaluated]
  rfl

end Selector

end PluginNaming
