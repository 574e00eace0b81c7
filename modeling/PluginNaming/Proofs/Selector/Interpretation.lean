import PluginNaming.Proofs.Selector.Action
import PluginNaming.Proofs.Selector.Reading

set_option autoImplicit false

namespace PluginNaming

open Number

variable {kind : NameKind} {σ τ : Type}

def Word.interpret (lookup : Lookup) (call : Call kind σ τ) : Word kind → Action σ (Value τ)
  | .reference wanted =>
      match lookup wanted with
      | some value => return .environment value
      | none => throw (.unknownVariable wanted.text)
  | .name called _ => do
      let plugin ← call called []
      return .provided plugin
  | .number written => return .number written.value
  | .text pieces => return .text (String.ofList (pieces.map Piece.value))

mutual

def Term.interpret (lookup : Lookup) (call : Call kind σ τ) : Term kind → Action σ (Value τ)
  | .word leaf => leaf.interpret lookup call
  | .call name _ _ group => do
      let values ← group.interpret lookup call
      let plugin ← call name values
      return .provided plugin

def Group.interpret (lookup : Lookup) (call : Call kind σ τ) :
    Group kind → Action σ (List (Value τ))
  | .empty _ => return []
  | .filled row => row.interpret lookup call

def Row.interpret (lookup : Lookup) (call : Call kind σ τ) : Row kind → Action σ (List (Value τ))
  | .last _ term _ => do
      let value ← term.interpret lookup call
      return [value]
  | .more _ term _ others => do
      let value ← term.interpret lookup call
      let values ← others.interpret lookup call
      return value :: values

end

def Phrase.interpret (lookup : Lookup) (call : Call kind σ τ) :
    Phrase kind → Action σ (List (Value τ))
  | .blank _ => return []
  | .listed _ group _ => group.interpret lookup call

def Row.terms : Row kind → List (Term kind)
  | .last _ term _ => [term]
  | .more _ term _ others => term :: others.terms

def Group.terms : Group kind → List (Term kind)
  | .empty _ => []
  | .filled row => row.terms

def Phrase.terms : Phrase kind → List (Term kind)
  | .blank _ => []
  | .listed _ group _ => group.terms

def Word.names : Word kind → List (Name kind)
  | .name called _ => [called]
  | _ => []

mutual

def Term.names : Term kind → List (Name kind)
  | .word leaf => leaf.names
  | .call name _ _ group => group.names ++ [name]

def Group.names : Group kind → List (Name kind)
  | .empty _ => []
  | .filled row => row.names

def Row.names : Row kind → List (Name kind)
  | .last _ term _ => term.names
  | .more _ term _ others => term.names ++ others.names

end

def Phrase.names : Phrase kind → List (Name kind)
  | .blank _ => []
  | .listed _ group _ => group.names

theorem Lookup.require_bound (lookup : Lookup) (wanted : Name .environment) :
    (do let value ← liftExcept (lookup.require wanted); return .environment value : Action σ (Value τ)) =
      match lookup wanted with
      | some value => return .environment value
      | none => throw (.unknownVariable wanted.text) := by
  unfold require
  cases lookup wanted <;> rfl

section Walk

variable (lookup : Lookup) (call : Call kind σ τ) (fault : Stop → Fault)

theorem Word.run_argument (word : Word kind) :
    word.argument.run lookup call fault = word.interpret lookup call := by
  cases word with
  | reference wanted => exact lookup.require_bound wanted
  | name called some => simp [argument, Argument.run, Arguments.run, interpret]
  | number written => rfl
  | text pieces => rfl

mutual

theorem Term.run_argument (term : Term kind) :
    term.argument.run lookup call fault = term.interpret lookup call := by
  cases term with
  | word leaf => exact leaf.run_argument lookup call fault
  | call name written gap group =>
      rw [Term.argument, Argument.run, Group.run_arguments group, Term.interpret]

theorem Group.run_arguments (group : Group kind) :
    group.arguments.run lookup call fault = group.interpret lookup call := by
  cases group with
  | empty gap => rfl
  | filled row => exact row.run_arguments

theorem Row.run_arguments (row : Row kind) :
    row.arguments.run lookup call fault = row.interpret lookup call := by
  cases row with
  | last before term after =>
      rw [Row.arguments, Arguments.run, term.run_argument, Row.interpret, Arguments.run]
      simp
  | more before term after others =>
      rw [Row.arguments, Arguments.run, term.run_argument, others.run_arguments, Row.interpret]

end

theorem Row.interpret_terms (row : Row kind) :
    row.interpret lookup call = row.terms.mapM (Term.interpret lookup call) := by
  cases row with
  | last before term after => simp [Row.interpret, Row.terms]
  | more before term after others =>
      rw [Row.interpret, Row.terms, List.mapM_cons, others.interpret_terms]

theorem Phrase.interpret_terms (phrase : Phrase kind) :
    phrase.interpret lookup call = phrase.terms.mapM (Term.interpret lookup call) := by
  cases phrase with
  | blank gap => rfl
  | listed before group after =>
      cases group with
      | empty gap => rfl
      | filled row => exact row.interpret_terms lookup call

theorem Phrase.run_arguments (phrase : Phrase kind) :
    phrase.arguments.run lookup call fault = phrase.interpret lookup call := by
  cases phrase with
  | blank gap => rfl
  | listed before group after => exact group.run_arguments lookup call fault

mutual

theorem Argument.whole_of_ok (argument : Argument kind) (state : σ) (value : Value τ)
    (found : ((argument.run lookup call fault).perform state).1 = .ok value) : argument.Whole := by
  cases argument with
  | call name arguments =>
      obtain ⟨values, first, _⟩ := Action.ok_of_bind _ _ _ _ found
      exact arguments.whole_of_ok state values first
  | _ => trivial

theorem Arguments.whole_of_ok (arguments : Arguments kind) (state : σ) (values : List (Value τ))
    (found : ((arguments.run lookup call fault).perform state).1 = .ok values) :
    arguments.Whole := by
  cases arguments with
  | none => trivial
  | more argument others =>
      obtain ⟨value, first, next⟩ := Action.ok_of_bind _ _ _ _ found
      obtain ⟨following, second, _⟩ := Action.ok_of_bind _ _ _ _ next
      exact ⟨argument.whole_of_ok state value first, others.whole_of_ok _ following second⟩
  | broken stop => cases found

end

theorem Word.logs (word : Word kind) :
    Logs word.names (word.interpret lookup call) (word.interpret lookup call.logged) := by
  cases word with
  | reference wanted =>
      simp only [interpret]
      split
      · exact .pure _
      · exact .lift (.error (.unknownVariable wanted.text))
  | name called some => exact .bind [called] [] _ _ _ _ (.call call called []) fun plugin => .pure _
  | number written => exact .pure _
  | text pieces => exact .pure _

mutual

theorem Term.logs (term : Term kind) :
    Logs term.names (term.interpret lookup call) (term.interpret lookup call.logged) := by
  cases term with
  | word leaf => exact leaf.logs lookup call
  | call name written gap group =>
      exact .bind _ [name] _ _ _ _ group.logs fun values =>
        .bind [name] [] _ _ _ _ (.call call name values) fun plugin => .pure _

theorem Group.logs (group : Group kind) :
    Logs group.names (group.interpret lookup call) (group.interpret lookup call.logged) := by
  cases group with
  | empty gap => exact .pure _
  | filled row => exact row.logs

theorem Row.logs (row : Row kind) :
    Logs row.names (row.interpret lookup call) (row.interpret lookup call.logged) := by
  cases row with
  | last before term after =>
      have logs := Logs.bind term.names [] _ _ _ _ term.logs fun value => .pure [value]
      rw [List.append_nil] at logs
      exact logs
  | more before term after others =>
      have logs := Logs.bind term.names (others.names ++ []) _ _ _ _ term.logs fun value =>
        .bind _ [] _ _ _ _ others.logs fun values => .pure (value :: values)
      rw [List.append_nil] at logs
      exact logs

end

theorem Phrase.logs (phrase : Phrase kind) :
    Logs phrase.names (phrase.interpret lookup call) (phrase.interpret lookup call.logged) := by
  cases phrase with
  | blank gap => exact .pure _
  | listed before group after => exact group.logs lookup call

end Walk

theorem Action.map_length {α β : Type} (step : α → Action σ β) (items : List α) (state : σ)
    (values : List β) (found : ((items.mapM step).perform state).1 = .ok values) :
    values.length = items.length := by
  induction items generalizing state values with
  | nil =>
      cases found
      rfl
  | cons item items hypothesis =>
      rw [List.mapM_cons] at found
      obtain ⟨value, _, next⟩ := ok_of_bind _ _ _ _ found
      obtain ⟨others, second, last⟩ := ok_of_bind _ _ _ _ next
      cases last
      rw [List.length_cons, List.length_cons, hypothesis _ _ second]

namespace Selector

variable (selector : Selector kind) (lookup : Lookup) (call : Call kind σ τ)

theorem arguments_phrase (separable : kind.Separable) (phrase : Phrase kind)
    (written : phrase.print = selector.text.toList) : selector.arguments = phrase.arguments := by
  rw [arguments, ← written, phrase.of_text separable]

theorem evaluate_phrase (separable : kind.Separable) (phrase : Phrase kind)
    (written : phrase.print = selector.text.toList) :
    selector.evaluate lookup call =
      ExceptT.adapt selector.relocate (phrase.interpret lookup call) := by
  rw [evaluate, selector.arguments_phrase separable phrase written, phrase.run_arguments]

theorem evaluate_ok (state : σ) (values : List (Value τ))
    (found : ((selector.evaluate lookup call).perform state).1 = .ok values) :
    ((selector.arguments.run lookup call (Stop.fault selector.text)).perform state).1 = .ok values := by
  rw [evaluate, Action.perform_adapt] at found
  cases result : ((selector.arguments.run lookup call (Stop.fault selector.text)).perform state).1 with
  | error fault =>
      rw [result] at found
      cases found
  | ok last =>
      rw [result] at found
      exact found

theorem evaluate_exact (separable : kind.Separable) :
    (∀ phrase : Phrase kind, phrase.print = selector.text.toList →
      (∀ other : Phrase kind, other.print = selector.text.toList → other = phrase) ∧
      selector.evaluate lookup call = ExceptT.adapt selector.relocate
        (phrase.terms.mapM (Term.interpret lookup call)) ∧
      Logs phrase.names (selector.evaluate lookup call) (selector.evaluate lookup call.logged) ∧
      ∀ state values, ((selector.evaluate lookup call).perform state).1 = .ok values →
        values.length = phrase.terms.length) ∧
      ((∀ phrase : Phrase kind, phrase.print ≠ selector.text.toList) →
        ∀ state, ∃ fault, ((selector.evaluate lookup call).perform state).1 = .error fault) := by
  refine ⟨fun phrase written => ⟨?_, ?_, ?_, ?_⟩, ?_⟩
  · intro other same
    exact other.unique separable phrase (same.trans written.symm)
  · rw [selector.evaluate_phrase lookup call separable phrase written, phrase.interpret_terms]
  · rw [selector.evaluate_phrase lookup call separable phrase written,
      selector.evaluate_phrase lookup call.logged separable phrase written]
    exact .adapt _ _ _ _ (phrase.logs lookup call)
  · intro state values found
    have ran := selector.evaluate_ok lookup call state values found
    rw [arguments, ← written, phrase.of_text separable, phrase.run_arguments,
      phrase.interpret_terms] at ran
    exact Action.map_length _ _ _ _ ran
  · intro unwritten state
    cases result : ((selector.evaluate lookup call).perform state).1 with
    | error fault => exact ⟨fault, rfl⟩
    | ok values =>
        have ran := selector.evaluate_ok lookup call state values result
        obtain ⟨phrase, written⟩ := (Phrase.whole_iff separable selector.text.toList).mp
          (Arguments.whole_of_ok _ _ _ _ state values ran)
        exact absurd written (unwritten phrase)

-- Every call gives the number of calls before it: `gamma` is asked for before `beta`.
theorem evaluate_nested :
    (NameKind.plugin.Separable ∧ NameKind.provider.Separable ∧ NameKind.environment.Separable) ∧
      (evaluate (⟨⟨"alpha", by decide⟩, "( beta (gamma), \"x\" )"⟩ : Selector .plugin)
        (fun _ => none) (fun _ _ count => (.ok count, count + 1))).perform 0 =
      (.ok [.provided 1, .text "x"], 2) := by
  refine ⟨⟨plugin_separable, provider_separable, environment_separable⟩, ?_⟩
  have walked := (evaluate_exact (σ := Nat) (τ := Nat)
    (⟨⟨"alpha", by decide⟩, "( beta (gamma), \"x\" )"⟩ : Selector .plugin) (fun _ => none)
    (fun _ _ count => (.ok count, count + 1)) plugin_separable).1 (.listed .none (.filled
    (.more ⟨[' '], rfl⟩ (.call ⟨"beta", by decide⟩ (by decide) ⟨[' '], rfl⟩
      (.filled (.last .none (.word (.name ⟨"gamma", by decide⟩ (by decide))) .none))) .none
      (.last ⟨[' '], rfl⟩ (.word (.text [.plain 'x' (by decide)])) ⟨[' '], rfl⟩))) .none) rfl
  rw [walked.2.1]
  rfl

end Selector

end PluginNaming
