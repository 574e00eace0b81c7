import PluginNaming.Proofs.Fault
import PluginNaming.Proofs.Selector.Interpretation

/- A syntax fault is known for the selector's own by its text alone, so a provider that finds fault with the
   same text is taken for the selector. -/

set_option autoImplicit false

namespace PluginNaming

variable {kind : NameKind} {σ τ : Type}

structure Answer (kind : NameKind) (τ : Type) where
  name : Name kind
  values : List (Value τ)
  result : Except Fault τ

def Call.answered (call : Call kind σ τ) : Call kind (σ × List (Answer kind τ)) τ :=
  fun name values (state, answers) =>
    let after := (call name values).perform state
    (after.1, after.2, answers ++ [{ name, values, result := after.1 }])

namespace Answer

def Made (answer : Answer kind τ) : Prop :=
  ∃ plugin, answer.result = .ok plugin

end Answer

inductive Blamed (own : Fault → Prop) (fault : Fault) : List (Answer kind τ) → Prop where
  | unasked (owned : own fault) (answers : List (Answer kind τ))
      (made : ∀ answer ∈ answers, answer.Made) : Blamed own fault answers
  | refused (earlier : List (Answer kind τ)) (made : ∀ answer ∈ earlier, answer.Made)
      (last : Answer kind τ) (failed : last.result = .error fault) : Blamed own fault (earlier ++ [last])

namespace Blamed

variable (own : Fault → Prop) (fault : Fault) (answers : List (Answer kind τ))

theorem only (blamed : Blamed own fault answers) (answer : Answer kind τ) (member : answer ∈ answers)
    (other : Fault) (failed : answer.result = .error other) :
    answers.getLast? = some answer ∧ other = fault := by
  cases blamed with
  | unasked owned answers made =>
      obtain ⟨plugin, answered⟩ := made answer member
      cases failed.symm.trans answered
  | refused earlier made last blamed =>
      rcases List.mem_append.mp member with before | final
      · obtain ⟨plugin, answered⟩ := made answer before
        cases failed.symm.trans answered
      · cases List.mem_singleton.mp final
        exact ⟨List.getLast?_concat, Except.error.inj (failed.symm.trans blamed)⟩

theorem owned (blamed : Blamed own fault answers) (made : ∀ answer ∈ answers, answer.Made) :
    own fault := by
  cases blamed with
  | unasked owned answers made => exact owned
  | refused earlier _ last failed =>
      obtain ⟨plugin, answered⟩ := made last (List.mem_append_right _ List.mem_cons_self)
      cases failed.symm.trans answered

end Blamed

theorem Call.answered_keeps (own : Fault → Prop) (call : Call kind σ τ) (name : Name kind)
    (values : List (Value τ)) :
    Action.Keeps (fun state => ∀ answer ∈ state.2, answer.Made)
      (fun fault state => Blamed own fault state.2) (call.answered name values) := by
  rintro ⟨state, answers⟩ made
  constructor
  · intro plugin found answer member
    rcases List.mem_append.mp member with before | last
    · exact made answer before
    · cases List.mem_singleton.mp last
      exact ⟨plugin, found⟩
  · intro fault failed
    exact .refused answers made _ failed

namespace Selector

variable (selector : Selector kind)

inductive Own (lookup : Lookup) : Fault → Prop where
  | unset (wanted : Name .environment) (missing : lookup wanted = none) :
      Own lookup (.unknownVariable wanted.text)
  | broken (stop : Stop) (breaks : stop ∈ selector.arguments.stops) :
      Own lookup (stop.fault selector.text)

theorem print_ne_text (some : selector.text ≠ "") : selector.print ≠ selector.text := by
  intro same
  have lengths := congrArg String.length same
  rw [print, if_neg some, String.length_append, String.length_append] at lengths
  have one : (" ").length = 1 := rfl
  omega

theorem relocate_fixed_iff (some : selector.text ≠ "") (fault : Fault) :
    selector.relocate fault = fault ↔ fault.subject? ≠ Option.some selector.text := by
  unfold relocate
  by_cases own : fault.subject? = Option.some selector.text
  · rw [if_pos own]
    refine iff_of_false ?_ (not_not_intro own)
    have apart := selector.print_ne_text some
    cases fault with
    | invalidCharacter subject place character =>
        cases own
        simp [Fault.relocate, apart]
    | endOfText subject expected =>
        cases own
        simp [Fault.relocate, apart]
    | _ => cases own
  · rw [if_neg own]
    exact iff_of_true rfl own

theorem run_answered (lookup : Lookup) (call : Call kind σ τ) :
    Action.Keeps (fun state => ∀ answer ∈ state.2, answer.Made)
      (fun fault state => Blamed (selector.Own lookup) fault state.2)
      (selector.arguments.run lookup call.answered (Stop.fault selector.text)) := by
  refine Arguments.run_keeps _ _ lookup _ _ (call.answered_keeps _) ?_ selector.arguments ?_
  · exact fun wanted state missing made => .unasked (.unset wanted missing) state.2 made
  · exact fun stop breaks state made => .unasked (.broken stop breaks) state.2 made

theorem blank_unanswered (lookup : Lookup) (call : Call kind σ τ) (blank : selector.text = "")
    (state : σ) : (selector.arguments.run lookup call.answered (Stop.fault selector.text)).perform
      (state, []) = (.ok [], state, []) := by
  rw [arguments, blank]
  rfl

theorem evaluate_fault_of_call (lookup : Lookup) (call : Call kind σ τ) (state : σ) :
    ∃ result after answers,
      (selector.evaluate lookup call).perform state = (result, after) ∧
      (selector.evaluate lookup call.answered).perform (state, []) = (result, after, answers) ∧
      (∀ answer ∈ answers, ∀ fault, answer.result = .error fault →
        answers.getLast? = some answer ∧ result = .error (selector.relocate fault) ∧
        (result = .error fault ↔ fault.subject? ≠ some selector.text)) ∧
      ∀ fault, result = .error fault → (∀ answer ∈ answers, ∃ plugin, answer.result = .ok plugin) →
        (∃ wanted, lookup wanted = none ∧ fault = .unknownVariable wanted.text) ∨
        ∃ stop ∈ selector.arguments.stops, fault =
          (stop.fault selector.text).relocate selector.print (selector.name.text.length + 1) := by
  obtain ⟨succeeds, fails⟩ := selector.run_answered lookup call (state, []) (List.forall_mem_nil _)
  rcases ran : (selector.arguments.run lookup call.answered (Stop.fault selector.text)).perform
    (state, []) with ⟨result, after, answers⟩
  rw [ran] at succeeds fails
  have told : (selector.evaluate lookup call.answered).perform (state, []) =
      (result.mapError selector.relocate, after, answers) := by
    rw [evaluate, Action.perform_adapt, ran]
  have plain := selector.evaluate_mirrors Prod.fst lookup call call.answered (fun _ _ _ => rfl) (state, [])
  rw [told] at plain
  refine ⟨result.mapError selector.relocate, after, answers, plain, told, ?_, ?_⟩
  · intro answer member fault failed
    have asked : selector.text ≠ "" := by
      intro blank
      cases ran.symm.trans (selector.blank_unanswered lookup call blank state)
      cases member
    cases result with
    | ok value =>
        obtain ⟨plugin, made⟩ := succeeds value rfl answer member
        cases failed.symm.trans made
    | error found =>
        obtain ⟨last, same⟩ := (fails found rfl).only _ _ _ answer member fault failed
        subst same
        refine ⟨last, rfl, ?_⟩
        rw [← selector.relocate_fixed_iff asked fault]
        exact ⟨Except.error.inj, congrArg Except.error⟩
  · intro fault ended made
    cases result with
    | ok value => cases ended
    | error found =>
        cases ended
        cases (fails found rfl).owned _ _ _ made with
        | unset wanted missing => exact .inl ⟨wanted, missing, rfl⟩
        | broken stop breaks => exact .inr ⟨stop, breaks, selector.relocate_own _ (stop.fault_points _)⟩

-- A provider that fails over the text `(b)`, which is also the text of the selector that asks it.
theorem evaluate_fault_moved :
    let selector : Selector .plugin := ⟨⟨"a", by decide⟩, "(b)"⟩
    let fault : Fault := .invalidCharacter "(b)" 0 '('
    let call : Call .plugin Unit Unit := fun _ _ => throw fault
    (selector.evaluate (fun _ => none) call.answered).perform ((), []) =
        (.error (.invalidCharacter "a (b)" 2 '('), (), [⟨⟨"b", by decide⟩, [], .error fault⟩]) ∧
      ((selector.evaluate (fun _ => none) call).perform ()).1 ≠ .error fault := by
  intro selector fault call
  let phrase : Phrase .plugin :=
    .listed .none (.filled (.last .none (.word (.name ⟨"b", by decide⟩ (by decide))) .none)) .none
  have written : phrase.print = selector.text.toList := by decide
  have moved : selector.relocate fault = .invalidCharacter "a (b)" 2 '(' := by decide
  have asked : (phrase.interpret (fun _ => none) call.answered).perform ((), []) =
      (.error fault, (), [⟨⟨"b", by decide⟩, [], .error fault⟩]) := rfl
  have plain : ((phrase.interpret (fun _ => none) call).perform ()).1 = .error fault := rfl
  rw [selector.evaluate_phrase _ call.answered plugin_separable phrase written,
    selector.evaluate_phrase _ call plugin_separable phrase written, Action.perform_adapt,
    Action.perform_adapt, asked, plain]
  have changed : selector.relocate fault ≠ fault := by decide
  exact ⟨by rw [← moved]; rfl, fun same => changed (Except.error.inj same)⟩

end Selector

end PluginNaming
