import PluginNaming.Proofs.Registry.Owner
import PluginNaming.Proofs.Selector.Course
import PluginNaming.Proofs.Selector.Outcome

set_option autoImplicit false

namespace PluginNaming

variable {kind : NameKind} {σ τ α β : Type}

structure Asked (kind : NameKind) (τ : Type) where
  place : Nat
  name : Name kind
  values : List (Value τ)

abbrev Trace (kind : NameKind) (τ : Type) := List (Asked kind τ)

def Traces (allowed : Asked kind τ → Prop) (plain : Action σ α)
    (traced : Action (σ × Trace kind τ) α) : Prop :=
  ∀ state trace, ∃ calls,
    traced.perform (state, trace) =
      ((plain.perform state).1, (plain.perform state).2, trace ++ calls) ∧
    ∀ call ∈ calls, allowed call

namespace Traces

variable (allowed : Asked kind τ → Prop)

theorem lift (result : Except Fault α) :
    Traces allowed (liftExcept result : Action σ α)
      (liftExcept result : Action (σ × Trace kind τ) α) := by
  intro state trace
  refine ⟨[], ?_, fun call member => by cases member⟩
  rw [Action.perform_lift, Action.perform_lift, List.append_nil]

theorem pure (value : α) :
    Traces allowed (Pure.pure value : Action σ α) (Pure.pure value : Action (σ × Trace kind τ) α) :=
  lift allowed (.ok value)

theorem throw (fault : Fault) :
    Traces allowed (MonadExcept.throw fault : Action σ α)
      (MonadExcept.throw fault : Action (σ × Trace kind τ) α) :=
  lift allowed (.error fault)

theorem bind (plain : Action σ α) (traced : Action (σ × Trace kind τ) α) (next : α → Action σ β)
    (nextTraced : α → Action (σ × Trace kind τ) β) (first : Traces allowed plain traced)
    (second : ∀ value, Traces allowed (next value) (nextTraced value)) :
    Traces allowed (plain >>= next) (traced >>= nextTraced) := by
  intro state trace
  obtain ⟨calls, same, all⟩ := first state trace
  cases result : (plain.perform state).1 with
  | error fault =>
      refine ⟨calls, ?_, all⟩
      rw [Action.perform_error traced nextTraced _ fault (by rw [same, result]), same,
        Action.perform_error plain next state fault result]
  | ok value =>
      obtain ⟨more, goesOn, others⟩ := second value (plain.perform state).2 (trace ++ calls)
      refine ⟨calls ++ more, ?_, fun call member => (List.mem_append.mp member).elim (all call) (others call)⟩
      rw [Action.perform_ok traced nextTraced _ value (by rw [same, result]), same, goesOn,
        Action.perform_ok plain next state value result, List.append_assoc]

theorem adapt (change : Fault → Fault) (plain : Action σ α) (traced : Action (σ × Trace kind τ) α)
    (traces : Traces allowed plain traced) :
    Traces allowed (ExceptT.adapt change plain) (ExceptT.adapt change traced) := by
  intro state trace
  obtain ⟨calls, same, all⟩ := traces state trace
  refine ⟨calls, ?_, all⟩
  rw [Action.perform_adapt, Action.perform_adapt, same]

end Traces

theorem Arguments.run_traces (allowed : Asked kind τ → Prop) (lookup : Lookup) (call : Call kind σ τ)
    (callTraced : Call kind (σ × Trace kind τ) τ) (fault : Stop → Fault)
    (traces : ∀ name values, Traces allowed (call name values) (callTraced name values))
    (arguments : Arguments kind) :
    Traces allowed (arguments.run lookup call fault) (arguments.run lookup callTraced fault) := by
  refine arguments.run_related (fun _ => Traces allowed) lookup call callTraced fault ?_ traces ?_ ?_
  · exact ⟨fun _ => .pure allowed, fun _ _ => .bind allowed⟩
  · exact fun wanted => .lift allowed _
  · exact fun stop _ => .throw allowed _

section Names

variable (lookup : Lookup) (call : Call kind σ τ) (fault : Stop → Fault) (served : Name kind → Prop)

mutual

theorem Argument.served_of_ok (obeys : Obeys call fun name _ _ => served name)
    (argument : Argument kind) (state : σ) (value : Value τ)
    (found : ((argument.run lookup call fault).perform state).1 = .ok value) :
    ∀ name ∈ argument.names, served name := by
  intro name member
  cases argument with
  | call called arguments =>
      obtain ⟨values, inner, next⟩ := Action.ok_of_bind _ _ _ _ found
      obtain ⟨plugin, made, _⟩ := Action.ok_of_bind _ _ _ _ next
      rcases List.mem_append.mp member with nested | own
      · exact arguments.served_of_ok obeys state values inner name nested
      · cases List.mem_singleton.mp own
        exact obeys name values _ plugin made
  | _ => cases member

theorem Arguments.served_of_ok (obeys : Obeys call fun name _ _ => served name)
    (arguments : Arguments kind) (state : σ) (values : List (Value τ))
    (found : ((arguments.run lookup call fault).perform state).1 = .ok values) :
    ∀ name ∈ arguments.names, served name := by
  intro name member
  cases arguments with
  | more first others =>
      obtain ⟨value, ran, next⟩ := Action.ok_of_bind _ _ _ _ found
      obtain ⟨following, after, _⟩ := Action.ok_of_bind _ _ _ _ next
      rcases List.mem_append.mp member with own | later
      · exact first.served_of_ok obeys state value ran name own
      · exact others.served_of_ok obeys _ following after name later
  | _ => cases member

end

end Names

theorem Word.argument_names (word : Word kind) : word.argument.names = word.names := by
  cases word <;> rfl

mutual

theorem Term.argument_names (term : Term kind) : term.argument.names = term.names := by
  cases term with
  | word leaf => exact leaf.argument_names
  | call name written gap group => rw [Term.argument, Argument.names, group.arguments_names, Term.names]

theorem Group.arguments_names (group : Group kind) : group.arguments.names = group.names := by
  cases group with
  | empty gap => rfl
  | filled row => exact row.arguments_names

theorem Row.arguments_names (row : Row kind) : row.arguments.names = row.names := by
  cases row with
  | last before term after =>
      rw [Row.arguments, Arguments.names, term.argument_names, Row.names]
      exact List.append_nil _
  | more before term after others =>
      rw [Row.arguments, Arguments.names, term.argument_names, others.arguments_names, Row.names]

end

theorem Phrase.arguments_names (phrase : Phrase kind) : phrase.arguments.names = phrase.names := by
  cases phrase with
  | blank gap => rfl
  | listed before group after => exact group.arguments_names

variable [UrlLibrary]

-- The same provider, writing down where it stands and what it is asked for before it answers.
def Provider.recorded (provider : Provider kind σ τ) (place : Nat) :
    Provider kind (σ × Trace kind τ) τ where
  name := provider.name
  url := provider.url
  infos := provider.infos
  plugin lookup name values := fun (state, trace) =>
    let after := (provider.plugin lookup name values).perform state
    (after.1, after.2, trace ++ [{ place, name, values }])

namespace Registry

def recorded (providers : List (Provider kind σ τ)) : List (Provider kind (σ × Trace kind τ) τ) :=
  providers.mapIdx fun place provider => provider.recorded place

section Recorded

variable (providers : List (Provider kind σ τ)) (unknown : Unknown kind) (lookup : Lookup)

theorem published_recorded : published (recorded providers) = published providers := by
  have places : (recorded providers).zipIdx =
      providers.zipIdx.map fun entry => (entry.1.recorded entry.2, entry.2) := by
    refine List.ext_getElem? fun index => ?_
    simp only [recorded, List.getElem?_zipIdx, List.getElem?_mapIdx, List.getElem?_map, Option.map_map,
      Nat.zero_add]
    rfl
  rw [published, places, List.flatMap_map]
  rfl

theorem owners_recorded :
    (ofList (recorded providers) unknown).owners = (ofList providers unknown).owners := by
  simp only [ofList, published_recorded]

theorem owner_recorded (name : Name kind) :
    (ofList (recorded providers) unknown).ownerOf? name =
      ((ofList providers unknown).owners.find? name).bind fun place =>
        providers[place]?.map fun provider => provider.recorded place := by
  change ((ofList (recorded providers) unknown).owners.find? name).bind
    (fun place => (recorded providers)[place]?) = _
  rw [owners_recorded]
  simp only [recorded, List.getElem?_mapIdx]

theorem owner_recorded_some (name : Name kind) (place : Nat) (owner : Provider kind σ τ)
    (found : (ofList providers unknown).owners.find? name = some place)
    (here : providers[place]? = some owner) :
    (ofList (recorded providers) unknown).ownerOf? name = some (owner.recorded place) := by
  rw [owner_recorded, found, Option.bind_some, here, Option.map_some]

theorem unowned_recorded (name : Name kind)
    (unowned : (ofList providers unknown).ownerOf? name = none) :
    (ofList (recorded providers) unknown).ownerOf? name = none := by
  rw [owner_recorded]
  change ((ofList providers unknown).owners.find? name).bind (fun place => providers[place]?) = none
    at unowned
  cases found : (ofList providers unknown).owners.find? name with
  | none => rfl
  | some place =>
      rw [found, Option.bind_some] at unowned
      rw [Option.bind_some, unowned, Option.map_none]

end Recorded

theorem require_unowned (registry : Registry kind σ τ) (name : Name kind)
    (unowned : registry.ownerOf? name = none) :
    registry.require name = .error (registry.unknown name) := by
  rw [require, unowned]

theorem plugin_unowned (registry : Registry kind σ τ) (lookup : Lookup) (name : Name kind)
    (values : List (Value τ)) (unowned : registry.ownerOf? name = none) :
    registry.plugin lookup name values = MonadExcept.throw (registry.unknown name) := by
  rw [plugin, registry.require_unowned name unowned]
  rfl

theorem select_unowned (registry : Registry kind σ τ) (lookup : Lookup) (selector : Selector kind)
    (unowned : registry.ownerOf? selector.name = none) :
    registry.select lookup selector = MonadExcept.throw (registry.unknown selector.name) := by
  rw [select, registry.require_unowned selector.name unowned]
  rfl

theorem select_owned (registry : Registry kind σ τ) (lookup : Lookup) (selector : Selector kind)
    (owner : Provider kind σ τ) (owns : registry.ownerOf? selector.name = some owner) :
    registry.select lookup selector =
      (do let values ← selector.evaluate lookup (registry.plugin lookup)
          registry.plugin lookup selector.name values) := by
  rw [select, require_owned _ _ owner owns]
  rfl

theorem plugin_obeys (registry : Registry kind σ τ) (lookup : Lookup) :
    Obeys (registry.plugin lookup) fun name _ _ => ∃ owner, registry.ownerOf? name = some owner := by
  intro name values state plugin made
  obtain ⟨owner, owns, _⟩ := registry.plugin_ok name lookup values state plugin made
  exact ⟨owner, owns⟩

def Owned (registry : Registry kind σ τ) (asked : Asked kind τ) : Prop :=
  registry.owners.find? asked.name = some asked.place

section Runs

variable (providers : List (Provider kind σ τ)) (unknown : Unknown kind) (lookup : Lookup)

theorem plugin_traces (name : Name kind) (values : List (Value τ)) :
    Traces (ofList providers unknown).Owned ((ofList providers unknown).plugin lookup name values)
      ((ofList (recorded providers) unknown).plugin lookup name values) := by
  cases owns : (ofList providers unknown).ownerOf? name with
  | none =>
      rw [plugin_unowned _ lookup name values owns,
        plugin_unowned _ lookup name values (unowned_recorded providers unknown name owns)]
      exact .throw _ _
  | some owner =>
      obtain ⟨place, found, here⟩ := Option.bind_eq_some_iff.mp owns
      have also := owner_recorded_some providers unknown name place owner found here
      rw [plugin_owned name _ owner lookup values owns, plugin_owned name _ _ lookup values also]
      intro state trace
      refine ⟨[{ place, name, values }], rfl, fun call member => ?_⟩
      cases List.mem_singleton.mp member
      exact found

theorem select_traces (selector : Selector kind) :
    Traces (ofList providers unknown).Owned ((ofList providers unknown).select lookup selector)
      ((ofList (recorded providers) unknown).select lookup selector) := by
  cases owns : (ofList providers unknown).ownerOf? selector.name with
  | none =>
      rw [select_unowned _ lookup selector owns,
        select_unowned _ lookup selector (unowned_recorded providers unknown selector.name owns)]
      exact .throw _ _
  | some owner =>
      obtain ⟨place, found, here⟩ := Option.bind_eq_some_iff.mp owns
      rw [select_owned _ lookup selector owner owns,
        select_owned _ lookup selector _ (owner_recorded_some providers unknown _ place owner found here)]
      exact .bind _ _ _ _ _ (.adapt _ _ _ _ (Arguments.run_traces _ lookup _ _ _
        (plugin_traces providers unknown lookup) selector.arguments)) fun values =>
          plugin_traces providers unknown lookup selector.name values

theorem of_list_quarantine (selector : Selector kind) :
    ((ofList providers unknown).ownerOf? selector.name = none →
      (ofList providers unknown).select lookup selector = throw (unknown selector.name) ∧
        (ofList (recorded providers) unknown).select lookup selector = throw (unknown selector.name)) ∧
      (∀ state made, (((ofList providers unknown).select lookup selector).perform state).1 = .ok made →
        (∃ owner, (ofList providers unknown).ownerOf? selector.name = some owner) ∧
          (∀ name ∈ selector.arguments.names,
            ∃ owner, (ofList providers unknown).ownerOf? name = some owner) ∧
          (kind.Separable → ∃ phrase : Phrase kind, phrase.print = selector.text.toList ∧
            ∀ name ∈ phrase.names, ∃ owner, (ofList providers unknown).ownerOf? name = some owner)) ∧
      Traces (ofList providers unknown).Owned ((ofList providers unknown).select lookup selector)
        ((ofList (recorded providers) unknown).select lookup selector) := by
  refine ⟨fun unowned => ⟨?_, ?_⟩, fun state made found => ?_, ?_⟩
  · exact select_unowned _ lookup selector unowned
  · exact select_unowned _ lookup selector (unowned_recorded providers unknown selector.name unowned)
  · cases owns : (ofList providers unknown).ownerOf? selector.name with
    | none =>
        rw [select_unowned _ lookup selector owns] at found
        cases found
    | some owner =>
        rw [select_owned _ lookup selector owner owns] at found
        obtain ⟨values, inner, _⟩ := Action.ok_of_bind _ _ _ _ found
        have ran := selector.evaluate_ok lookup _ state values inner
        have served := Arguments.served_of_ok lookup _ _ _ (plugin_obeys _ lookup) selector.arguments
          state values ran
        refine ⟨⟨owner, rfl⟩, served, fun separable => ?_⟩
        obtain ⟨phrase, written⟩ := (Phrase.whole_iff separable selector.text.toList).mp
          (Arguments.whole_of_ok _ _ _ _ state values ran)
        rw [Selector.arguments, ← written, phrase.of_text separable, phrase.arguments_names] at served
        exact ⟨phrase, written, served⟩
  · exact select_traces providers unknown lookup selector

end Runs

end Registry

end PluginNaming
