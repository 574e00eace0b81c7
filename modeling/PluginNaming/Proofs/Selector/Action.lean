import PluginNaming.Selector.Evaluation

set_option autoImplicit false

namespace PluginNaming

variable {kind : NameKind} {σ τ α β : Type}

def Fault.unplaced : Fault → Fault
  | .invalidCharacter _ _ character => .invalidCharacter "" 0 character
  | .endOfText _ expected => .endOfText "" expected
  | fault => fault

theorem Selector.relocate_unplaced (selector : Selector kind) (fault : Fault) :
    (selector.relocate fault).unplaced = fault.unplaced := by
  unfold relocate
  split
  · cases fault <;> rfl
  · rfl

namespace Action

theorem perform_ok (first : Action σ α) (next : α → Action σ β) (state : σ) (value : α)
    (found : (first.perform state).1 = .ok value) :
    (first >>= next).perform state = (next value).perform (first.perform state).2 := by
  change ExceptT.bindCont next (first.perform state).1 (first.perform state).2 = _
  rw [found]
  rfl

theorem bind_ok (first : Action σ α) (next : α → Action σ β) (state after : σ) (value : α)
    (ran : first.perform state = (.ok value, after)) :
    (first >>= next).perform state = (next value).perform after := by
  rw [perform_ok first next state value (by rw [ran]), ran]

theorem perform_error (first : Action σ α) (next : α → Action σ β) (state : σ) (fault : Fault)
    (found : (first.perform state).1 = .error fault) :
    (first >>= next).perform state = (.error fault, (first.perform state).2) := by
  change ExceptT.bindCont next (first.perform state).1 (first.perform state).2 = _
  rw [found]
  rfl

theorem ok_of_bind (first : Action σ α) (next : α → Action σ β) (state : σ) (last : β)
    (found : ((first >>= next).perform state).1 = .ok last) :
    ∃ value, (first.perform state).1 = .ok value ∧
      ((next value).perform (first.perform state).2).1 = .ok last := by
  cases result : (first.perform state).1 with
  | error fault =>
      rw [perform_error first next state fault result] at found
      cases found
  | ok value =>
      rw [perform_ok first next state value result] at found
      exact ⟨value, rfl, found⟩

theorem perform_adapt (change : Fault → Fault) (action : Action σ α) (state : σ) :
    Action.perform (ExceptT.adapt change action) state =
      ((action.perform state).1.mapError change, (action.perform state).2) := by
  rfl

theorem perform_lift (result : Except Fault α) (state : σ) :
    (liftExcept result : Action σ α).perform state = (result, state) := by
  cases result <;> rfl

-- Two actions that leave the same state and give the same value, if any. Their faults may differ.
def Agrees (first second : Action σ α) : Prop :=
  ∀ state, (first.perform state).2 = (second.perform state).2 ∧
    (first.perform state).1.toOption = (second.perform state).1.toOption

namespace Agrees

theorem refl (action : Action σ α) : Agrees action action :=
  fun _ => ⟨rfl, rfl⟩

theorem trans (first second third : Action σ α) (left : Agrees first second)
    (right : Agrees second third) : Agrees first third :=
  fun state => ⟨(left state).1.trans (right state).1, (left state).2.trans (right state).2⟩

theorem symm (first second : Action σ α) (same : Agrees first second) : Agrees second first :=
  fun state => ⟨(same state).1.symm, (same state).2.symm⟩

theorem adapt (change : Fault → Fault) (action : Action σ α) :
    Agrees (ExceptT.adapt change action) action := by
  intro state
  rw [perform_adapt]
  refine ⟨rfl, ?_⟩
  cases (action.perform state).1 with
  | error fault => rfl
  | ok value => rfl

theorem adapt_both (change other : Fault → Fault) (first second : Action σ α)
    (same : Agrees first second) : Agrees (ExceptT.adapt change first) (ExceptT.adapt other second) :=
  trans _ _ _ (adapt change first) (trans _ _ _ same (symm _ _ (adapt other second)))

theorem bind (first second : Action σ α) (next others : α → Action σ β)
    (same : Agrees first second) (also : ∀ value, Agrees (next value) (others value)) :
    Agrees (first >>= next) (second >>= others) := by
  intro state
  obtain ⟨states, results⟩ := same state
  cases found : (first.perform state).1 with
  | error fault =>
      cases other : (second.perform state).1 with
      | error fault' =>
          rw [perform_error first next state fault found, perform_error second others state fault' other]
          exact ⟨states, rfl⟩
      | ok value =>
          rw [found, other] at results
          cases results
  | ok value =>
      cases other : (second.perform state).1 with
      | error fault =>
          rw [found, other] at results
          cases results
      | ok value' =>
          rw [found, other] at results
          cases results
          rw [perform_ok first next state value found, perform_ok second others state value other,
            states]
          exact also value _

end Agrees

def Alike (first second : Action σ α) : Prop :=
  ∀ state, (first.perform state).2 = (second.perform state).2 ∧
    (first.perform state).1.mapError Fault.unplaced = (second.perform state).1.mapError Fault.unplaced

namespace Alike

theorem refl (action : Action σ α) : Alike action action :=
  fun _ => ⟨rfl, rfl⟩

theorem trans (first second third : Action σ α) (left : Alike first second)
    (right : Alike second third) : Alike first third :=
  fun state => ⟨(left state).1.trans (right state).1, (left state).2.trans (right state).2⟩

theorem symm (first second : Action σ α) (same : Alike first second) : Alike second first :=
  fun state => ⟨(same state).1.symm, (same state).2.symm⟩

theorem adapt (change : Fault → Fault) (keeps : ∀ fault, (change fault).unplaced = fault.unplaced)
    (action : Action σ α) : Alike (ExceptT.adapt change action) action := by
  intro state
  rw [perform_adapt]
  refine ⟨rfl, ?_⟩
  cases (action.perform state).1 with
  | error fault => exact congrArg Except.error (keeps fault)
  | ok value => rfl

theorem ok (first second : Action σ α) (same : Alike first second) (state : σ) (value : α)
    (found : (first.perform state).1 = .ok value) : (second.perform state).1 = .ok value := by
  have results := (same state).2
  rw [found] at results
  cases other : (second.perform state).1 with
  | error fault =>
      rw [other] at results
      cases results
  | ok last =>
      rw [other] at results
      cases results
      rfl

theorem error (first second : Action σ α) (same : Alike first second) (state : σ) (fault : Fault)
    (found : (first.perform state).1 = .error fault) :
    ∃ other, (second.perform state).1 = .error other ∧ other.unplaced = fault.unplaced := by
  have results := (same state).2
  rw [found] at results
  cases result : (second.perform state).1 with
  | error other =>
      rw [result] at results
      exact ⟨other, rfl, (Except.error.inj results).symm⟩
  | ok value =>
      rw [result] at results
      cases results

theorem bind (first second : Action σ α) (next others : α → Action σ β)
    (same : Alike first second) (also : ∀ value, Alike (next value) (others value)) :
    Alike (first >>= next) (second >>= others) := by
  intro state
  have states := (same state).1
  cases found : (first.perform state).1 with
  | error fault =>
      obtain ⟨other, result, blamed⟩ := same.error _ _ state fault found
      rw [perform_error first next state fault found, perform_error second others state other result]
      exact ⟨states, congrArg Except.error blamed.symm⟩
  | ok value =>
      have result := same.ok _ _ state value found
      rw [perform_ok first next state value found, perform_ok second others state value result, states]
      exact also value _

end Alike

end Action

abbrev Log (kind : NameKind) (τ : Type) := List (Name kind × List (Value τ))

-- The same provider, writing down what it is asked for before it answers.
def Call.logged (call : Call kind σ τ) : Call kind (σ × Log kind τ) τ :=
  fun name values (state, log) =>
    let after := (call name values).perform state
    (after.1, after.2, log ++ [(name, values)])

structure Logged (names : List (Name kind)) (plain : Action σ α) (logged : Action (σ × Log kind τ) α)
    (state : σ) (log calls : Log kind τ) : Prop where
  same : logged.perform (state, log) =
    ((plain.perform state).1, (plain.perform state).2, log ++ calls)
  begun : calls.map Prod.fst <+: names
  done : ∀ value, (plain.perform state).1 = .ok value → calls.map Prod.fst = names

def Logs (names : List (Name kind)) (plain : Action σ α) (logged : Action (σ × Log kind τ) α) : Prop :=
  ∀ state log, ∃ calls, Logged names plain logged state log calls

namespace Logs

theorem pure (value : α) :
    Logs ([] : List (Name kind)) (Pure.pure value : Action σ α)
      (Pure.pure value : Action (σ × Log kind τ) α) :=
  fun state log => ⟨[], by rw [List.append_nil]; rfl, List.nil_prefix, fun _ _ => rfl⟩

theorem lift (result : Except Fault α) :
    Logs ([] : List (Name kind)) (liftExcept result : Action σ α)
      (liftExcept result : Action (σ × Log kind τ) α) := by
  intro state log
  refine ⟨[], ?_, List.nil_prefix, fun _ _ => rfl⟩
  rw [Action.perform_lift, Action.perform_lift, List.append_nil]

theorem call (call : Call kind σ τ) (name : Name kind) (values : List (Value τ)) :
    Logs [name] (call name values) (call.logged name values) :=
  fun _ _ => ⟨[(name, values)], rfl, List.prefix_rfl, fun _ _ => rfl⟩

theorem bind (before after : List (Name kind)) (plain : Action σ α)
    (logged : Action (σ × Log kind τ) α) (next : α → Action σ β)
    (nextLogged : α → Action (σ × Log kind τ) β) (first : Logs before plain logged)
    (second : ∀ value, Logs after (next value) (nextLogged value)) :
    Logs (before ++ after) (plain >>= next) (logged >>= nextLogged) := by
  intro state log
  obtain ⟨calls, same, begun, done⟩ := first state log
  cases result : (plain.perform state).1 with
  | error fault =>
      have stopped := Action.perform_error plain next state fault result
      refine ⟨calls, ?_, begun.trans (List.prefix_append before after), ?_⟩
      · rw [Action.perform_error logged nextLogged _ fault (by rw [same, result]), same, stopped]
      · intro value found
        rw [stopped] at found
        cases found
  | ok value =>
      obtain ⟨more, goesOn, within, complete⟩ :=
        second value (plain.perform state).2 (log ++ calls)
      have continued := Action.perform_ok plain next state value result
      have all := done value result
      refine ⟨calls ++ more, ?_, ?_, ?_⟩
      · rw [Action.perform_ok logged nextLogged _ value (by rw [same, result]), same, continued, goesOn,
          List.append_assoc]
      · rw [List.map_append, all]
        exact List.prefix_append_right_inj before |>.mpr within
      · intro last found
        rw [continued] at found
        rw [List.map_append, all, complete last found]

theorem adapt (names : List (Name kind)) (change : Fault → Fault) (plain : Action σ α)
    (logged : Action (σ × Log kind τ) α) (logs : Logs names plain logged) :
    Logs names (ExceptT.adapt change plain) (ExceptT.adapt change logged) := by
  intro state log
  obtain ⟨calls, same, begun, done⟩ := logs state log
  refine ⟨calls, ?_, begun, ?_⟩
  · rw [Action.perform_adapt, Action.perform_adapt, same]
  · intro value found
    rw [Action.perform_adapt] at found
    cases result : (plain.perform state).1 with
    | error fault =>
        rw [result] at found
        cases found
    | ok last => exact done last result

end Logs

end PluginNaming
