import PluginNaming.Proofs.Selector.Action

set_option autoImplicit false

namespace PluginNaming

variable {kind : NameKind} {σ ρ τ α β : Type}

namespace Action

structure Congruent (related : ∀ α : Type, Action σ α → Action ρ α → Prop) : Prop where
  pure : ∀ (α : Type) (value : α), related α (Pure.pure value) (Pure.pure value)
  bind : ∀ (α β : Type) (first : Action σ α) (other : Action ρ α) (next : α → Action σ β)
    (others : α → Action ρ β), related α first other →
    (∀ value, related β (next value) (others value)) → related β (first >>= next) (other >>= others)

def Keeps (holds : σ → Prop) (blames : Fault → σ → Prop) (action : Action σ α) : Prop :=
  ∀ state, holds state →
    (∀ value, (action.perform state).1 = .ok value → holds (action.perform state).2) ∧
    ∀ fault, (action.perform state).1 = .error fault → blames fault (action.perform state).2

namespace Keeps

variable (holds : σ → Prop) (blames : Fault → σ → Prop)

theorem lift (result : Except Fault α)
    (blamed : ∀ fault state, result = .error fault → holds state → blames fault state) :
    Keeps holds blames (liftExcept result : Action σ α) := by
  intro state held
  rw [perform_lift]
  exact ⟨fun _ _ => held, fun fault failed => blamed fault state failed held⟩

theorem pure (value : α) : Keeps holds blames (Pure.pure value : Action σ α) :=
  lift holds blames (.ok value) fun _ _ failed _ => by cases failed

theorem bind (first : Action σ α) (next : α → Action σ β) (kept : Keeps holds blames first)
    (also : ∀ value, Keeps holds blames (next value)) : Keeps holds blames (first >>= next) := by
  intro state held
  obtain ⟨succeeds, fails⟩ := kept state held
  cases result : (first.perform state).1 with
  | error fault =>
      rw [perform_error first next state fault result]
      refine ⟨nofun, fun other failed => ?_⟩
      cases failed
      exact fails fault result
  | ok value =>
      rw [perform_ok first next state value result]
      exact also value _ (succeeds value result)

theorem adapt (change : Fault → Fault) (action : Action σ α) (kept : Keeps holds blames action)
    (changes : ∀ fault state, blames fault state → blames (change fault) state) :
    Keeps holds blames (ExceptT.adapt change action) := by
  intro state held
  obtain ⟨succeeds, fails⟩ := kept state held
  rw [perform_adapt]
  cases result : (action.perform state).1 with
  | ok value => exact ⟨fun _ _ => succeeds value result, nofun⟩
  | error fault =>
      refine ⟨nofun, fun other failed => ?_⟩
      cases failed
      exact changes fault _ (fails fault result)

end Keeps

def Mirrors (view : ρ → σ) (plain : Action σ α) (large : Action ρ α) : Prop :=
  ∀ state, plain.perform (view state) = ((large.perform state).1, view (large.perform state).2)

namespace Mirrors

variable (view : ρ → σ)

theorem lift (result : Except Fault α) :
    Mirrors view (liftExcept result : Action σ α) (liftExcept result : Action ρ α) := by
  intro state
  rw [perform_lift, perform_lift]

theorem pure (value : α) :
    Mirrors view (Pure.pure value : Action σ α) (Pure.pure value : Action ρ α) :=
  lift view (.ok value)

theorem bind (plain : Action σ α) (large : Action ρ α) (next : α → Action σ β)
    (others : α → Action ρ β) (same : Mirrors view plain large)
    (also : ∀ value, Mirrors view (next value) (others value)) :
    Mirrors view (plain >>= next) (large >>= others) := by
  intro state
  have here := same state
  cases result : (large.perform state).1 with
  | error fault =>
      rw [perform_error large others state fault result,
        perform_error plain next (view state) fault (by rw [here, result]), here]
  | ok value =>
      rw [perform_ok large others state value result,
        perform_ok plain next (view state) value (by rw [here, result]), here]
      exact also value _

theorem adapt (change : Fault → Fault) (plain : Action σ α) (large : Action ρ α)
    (same : Mirrors view plain large) :
    Mirrors view (ExceptT.adapt change plain) (ExceptT.adapt change large) := by
  intro state
  rw [perform_adapt, perform_adapt, same state]

end Mirrors

end Action

mutual

def Argument.stops : Argument kind → List Stop
  | .call _ arguments => arguments.stops
  | _ => []

def Arguments.stops : Arguments kind → List Stop
  | .none => []
  | .more first others => first.stops ++ others.stops
  | .broken stop => [stop]

end

mutual

def Argument.names : Argument kind → List (Name kind)
  | .call name arguments => arguments.names ++ [name]
  | _ => []

def Arguments.names : Arguments kind → List (Name kind)
  | .more first others => first.names ++ others.names
  | _ => []

end

mutual

def Argument.references : Argument kind → List (Name .environment)
  | .reference wanted => [wanted]
  | .call _ arguments => arguments.references
  | _ => []

def Arguments.references : Arguments kind → List (Name .environment)
  | .more first others => first.references ++ others.references
  | _ => []

end

section Related

variable (related : ∀ α : Type, Action σ α → Action ρ α → Prop) (lookup : Lookup)
  (call : Call kind σ τ) (other : Call kind ρ τ) (fault : Stop → Fault)

mutual

theorem Argument.run_related (congruent : Action.Congruent related)
    (calls : ∀ name values, related _ (call name values) (other name values))
    (known : ∀ wanted,
      related _ (liftExcept (lookup.require wanted)) (liftExcept (lookup.require wanted)))
    (argument : Argument kind)
    (breaks : ∀ stop ∈ argument.stops,
      related (List (Value τ)) (throw (fault stop)) (throw (fault stop))) :
    related _ (argument.run lookup call fault) (argument.run lookup other fault) := by
  cases argument with
  | reference wanted =>
      exact congruent.bind _ _ _ _ _ _ (known wanted) fun value => congruent.pure _ _
  | call name arguments =>
      exact congruent.bind _ _ _ _ _ _ (arguments.run_related congruent calls known breaks) fun values =>
        congruent.bind _ _ _ _ _ _ (calls name values) fun plugin => congruent.pure _ _
  | number value => exact congruent.pure _ _
  | text value => exact congruent.pure _ _

theorem Arguments.run_related (congruent : Action.Congruent related)
    (calls : ∀ name values, related _ (call name values) (other name values))
    (known : ∀ wanted,
      related _ (liftExcept (lookup.require wanted)) (liftExcept (lookup.require wanted)))
    (arguments : Arguments kind)
    (breaks : ∀ stop ∈ arguments.stops,
      related (List (Value τ)) (throw (fault stop)) (throw (fault stop))) :
    related _ (arguments.run lookup call fault) (arguments.run lookup other fault) := by
  cases arguments with
  | none => exact congruent.pure _ _
  | more first others =>
      have here := first.run_related congruent calls known fun stop member =>
        breaks stop (List.mem_append_left _ member)
      have there := others.run_related congruent calls known fun stop member =>
        breaks stop (List.mem_append_right _ member)
      exact congruent.bind _ _ _ _ _ _ here fun value =>
        congruent.bind _ _ _ _ _ _ there fun values => congruent.pure _ _
  | broken stop => exact breaks stop List.mem_cons_self

end

end Related

theorem Lookup.require_keeps (lookup : Lookup) (holds : σ → Prop) (blames : Fault → σ → Prop)
    (unset : ∀ wanted state, lookup wanted = none → holds state →
      blames (.unknownVariable wanted.text) state) (wanted : Name .environment) :
    Action.Keeps holds blames (liftExcept (lookup.require wanted) : Action σ Data.Json) := by
  refine .lift holds blames _ fun found state failed held => ?_
  unfold require at failed
  cases value : lookup wanted with
  | some known =>
      rw [value] at failed
      cases failed
  | none =>
      rw [value] at failed
      cases failed
      exact unset wanted state value held

theorem Arguments.run_keeps (holds : σ → Prop) (blames : Fault → σ → Prop) (lookup : Lookup)
    (call : Call kind σ τ) (fault : Stop → Fault)
    (calls : ∀ name values, Action.Keeps holds blames (call name values))
    (unset : ∀ wanted state, lookup wanted = .none → holds state →
      blames (.unknownVariable wanted.text) state)
    (arguments : Arguments kind)
    (breaks : ∀ stop ∈ arguments.stops, ∀ state, holds state → blames (fault stop) state) :
    Action.Keeps holds blames (arguments.run lookup call fault) := by
  refine arguments.run_related (fun _ action _ => Action.Keeps holds blames action) lookup call call fault
    ?_ calls (lookup.require_keeps holds blames unset) ?_
  · exact ⟨fun _ => .pure holds blames, fun _ _ first _ next _ => .bind holds blames first next⟩
  · intro stop member
    refine .lift holds blames (.error (fault stop)) fun found state failed held => ?_
    cases failed
    exact breaks stop member state held

theorem Arguments.run_mirrors (view : ρ → σ) (lookup : Lookup) (call : Call kind σ τ)
    (large : Call kind ρ τ) (fault : Stop → Fault)
    (calls : ∀ name values, Action.Mirrors view (call name values) (large name values))
    (arguments : Arguments kind) :
    Action.Mirrors view (arguments.run lookup call fault) (arguments.run lookup large fault) := by
  refine arguments.run_related (fun _ => Action.Mirrors view) lookup call large fault ?_ calls ?_ ?_
  · exact ⟨fun _ => .pure view, fun _ _ => .bind view⟩
  · exact fun wanted => .lift view _
  · exact fun stop _ => .lift view (.error (fault stop))

theorem Selector.evaluate_mirrors (view : ρ → σ) (lookup : Lookup) (call : Call kind σ τ)
    (large : Call kind ρ τ)
    (calls : ∀ name values, Action.Mirrors view (call name values) (large name values))
    (selector : Selector kind) :
    Action.Mirrors view (selector.evaluate lookup call) (selector.evaluate lookup large) :=
  .adapt view _ _ _ (selector.arguments.run_mirrors view lookup call large _ calls)

end PluginNaming
