import PluginNaming.Proofs.Provider.Visibility
import PluginNaming.Proofs.Selector.Course
import PluginNaming.Proofs.Selector.Outcome

/- The parameters of an alias and those of a caller exclude each other. Resolving a selector decides that
   by the text that the caller gives, a provider seen through aliases by the values that come of it. For
   lists of constants the two agree, but for a text without parameters: resolving counts blanks and empty
   parentheses as a text, and the provider as none. -/

set_option autoImplicit false

namespace PluginNaming

variable {kind : NameKind} {σ τ : Type}

def Arguments.Constant (arguments : Arguments kind) (lookup : Lookup) (values : List (Value τ)) : Prop :=
  ∀ (σ : Type) (call : Call kind σ τ) (fault : Stop → Fault),
    arguments.run lookup call fault = pure values

structure Arguments.Literal (arguments : Arguments kind) (lookup : Lookup) : Prop where
  whole : arguments.Whole
  unnamed : arguments.names = []
  known : ∀ wanted ∈ arguments.references, ∃ value, lookup wanted = some value

theorem Arguments.constant_none (arguments : Arguments kind) (lookup : Lookup)
    (none : arguments = .none) : arguments.Constant lookup ([] : List (Value τ)) := by
  rw [none]
  exact fun σ call fault => rfl

theorem Selector.arguments_blank (selector : Selector kind) (blank : selector.text = "") :
    selector.arguments = .none := by
  rw [arguments, blank]
  rfl

theorem Lookup.require_ok_iff (lookup : Lookup) (wanted : Name .environment) (value : Data.Json) :
    lookup.require wanted = .ok value ↔ lookup wanted = some value := by
  unfold require
  cases lookup wanted with
  | none => simp
  | some known => simp

theorem Argument.constant (argument : Argument kind) (lookup : Lookup) (unnamed : argument.names = [])
    (known : ∀ wanted ∈ argument.references, ∃ value, lookup wanted = some value) :
    ∃ value : Value τ, ∀ (σ : Type) (call : Call kind σ τ) (fault : Stop → Fault),
      argument.run lookup call fault = pure value := by
  cases argument with
  | reference wanted =>
      obtain ⟨value, set⟩ := known wanted List.mem_cons_self
      have required := (lookup.require_ok_iff wanted value).mpr set
      refine ⟨.environment value, fun σ call fault => ?_⟩
      rw [run, required]
      rfl
  | call name arguments => simp [names] at unnamed
  | number value => exact ⟨.number value, fun σ call fault => rfl⟩
  | text value => exact ⟨.text value, fun σ call fault => rfl⟩

theorem Arguments.Literal.constant (arguments : Arguments kind) (lookup : Lookup)
    (literal : arguments.Literal lookup) : ∃ values : List (Value τ),
      arguments.Constant lookup values ∧ (values = [] ↔ arguments = .none) := by
  obtain ⟨whole, unnamed, known⟩ := literal
  cases arguments with
  | none => exact ⟨[], fun σ call fault => rfl, iff_of_true rfl rfl⟩
  | more first others =>
      obtain ⟨here, there⟩ := List.append_eq_nil_iff.mp unnamed
      obtain ⟨value, once⟩ := first.constant (τ := τ) lookup here fun wanted member =>
        known wanted (List.mem_append_left _ member)
      obtain ⟨values, again, _⟩ := Literal.constant others lookup
        ⟨whole.2, there, fun wanted member => known wanted (List.mem_append_right _ member)⟩
      refine ⟨value :: values, fun σ call fault => ?_, iff_of_false nofun nofun⟩
      rw [run, once, again, pure_bind, pure_bind]
  | broken stop => exact whole.elim

theorem Stop.fault_not_alias (stop : Stop) (text name : String) (defect : AliasDefect) :
    stop.fault text ≠ .invalidAlias name defect := by
  unfold fault
  cases stop.cause with
  | unexpected =>
      dsimp only
      unfold Fault.pointing
      split <;> nofun
  | _ => nofun

theorem Selector.relocate_not_alias (selector : Selector kind) (fault : Fault) (name : String)
    (defect : AliasDefect) (other : fault ≠ .invalidAlias name defect) :
    selector.relocate fault ≠ .invalidAlias name defect := by
  unfold relocate
  split
  · cases fault with
    | invalidAlias own wrong => exact other
    | _ => nofun
  · exact other

section Urls

variable [UrlLibrary]

theorem Provider.select_constant (provider : Provider kind σ τ) (lookup : Lookup)
    (selector : Selector kind) (values : List (Value τ))
    (constant : selector.arguments.Constant lookup values) :
    provider.select lookup selector = provider.plugin lookup selector.name values := by
  have evaluated : selector.evaluate lookup (provider.plugin lookup) = pure values := by
    rw [Selector.evaluate, constant]
    rfl
  rw [select, evaluated, pure_bind]

-- By itself a run finds no fault with an alias, so with such a fault it has asked the provider.
theorem Provider.logged_blames (provider : Provider kind σ τ) (lookup : Lookup)
    (selector : Selector kind) (log : Log kind τ) (name : String) (defect : AliasDefect) :
    Action.Keeps (fun state => log.length ≤ state.2.length)
      (fun fault state => fault ≠ .invalidAlias name defect ∨ log.length < state.2.length)
      (provider.logged.select lookup selector) := by
  have calls : ∀ called values, Action.Keeps (fun state => log.length ≤ state.2.length)
      (fun fault state => fault ≠ .invalidAlias name defect ∨ log.length < state.2.length)
      (provider.logged.plugin lookup called values) := by
    rintro called values ⟨state, before⟩ within
    have longer : log.length < (before ++ [(called, values)]).length := by
      rw [List.length_append]
      exact Nat.lt_succ_of_le within
    exact ⟨fun _ _ => Nat.le_of_lt longer, fun _ _ => .inr longer⟩
  refine .bind _ _ _ _ (.adapt _ _ _ _ ?_ ?_) fun values => calls selector.name values
  · refine Arguments.run_keeps _ _ lookup _ _ calls ?_ _ ?_
    · exact fun wanted state missing within => .inl nofun
    · exact fun stop breaks state within => .inl (stop.fault_not_alias _ name defect)
  · rintro fault state (other | longer)
    · exact .inl (selector.relocate_not_alias fault name defect other)
    · exact .inr longer

namespace AliasedProvider

structure OneRule (aliases : AliasSet kind) (inner : Provider kind σ τ)
    (provider : AliasedProvider kind σ τ) (lookup : Lookup) (selector : Selector kind) : Prop where
  asks : ∀ asked, aliases.resolve selector = .ok (some asked) →
    provider.toProvider.select lookup selector = inner.select lookup asked
  blank : selector.arguments = .none → ∃ asked,
    aliases.resolve { selector with text := "" } = .ok (some asked) ∧
      provider.toProvider.select lookup selector = inner.select lookup asked
  refuses : selector.arguments ≠ .none → ∀ fault, aliases.resolve selector = .error fault →
    ∀ state, (provider.toProvider.select lookup selector).perform state = (.error fault, state)

section Wrapped

variable (aliases : AliasSet kind) (inner : Provider kind σ τ) (unknown : Unknown kind)
  (provider : AliasedProvider kind σ τ) (lookup : Lookup) (selector : Selector kind)
  (wrapped : wrap aliases inner unknown = .ok provider)
  (visible : provider.infos.hasName selector.name = true)

include wrapped visible

theorem resolve_visible :
    aliases.resolve selector =
      if (aliases.image selector.name).text = "" then
        .ok (some { aliases.image selector.name with text := selector.text })
      else if selector.text = "" then .ok (some (aliases.image selector.name))
      else .error (.invalidAlias selector.name.text
        (.parametersGivenTwice (aliases.image selector.name).text)) := by
  unfold AliasSet.resolve AliasSet.image
  by_cases plain : selector.name ∈ aliases.plain
  · simp [plain, aliases.tabulated.apart selector.name plain]
  · have declared := (visible_declared _ _ _ _ wrapped selector.name visible).resolve_left plain
    obtain ⟨target, selects⟩ := Option.isSome_iff_exists.mp declared
    simp [plain, selects]

theorem delegates_image :
    Delegates lookup (provider.plugin lookup) (inner.plugin lookup) selector.name
      (aliases.image selector.name) := by
  have found := target_visible _ _ _ provider wrapped selector.name visible
  obtain ⟨_, _, rfl, _⟩ := wrap_ok _ _ _ provider wrapped
  exact provider.delegates lookup selector.name _ found

theorem select_bare (values : List (Value τ)) (constant : selector.arguments.Constant lookup values)
    (bare : (aliases.image selector.name).text = "") :
    provider.toProvider.select lookup selector =
      inner.select lookup { aliases.image selector.name with text := selector.text } := by
  have delegates := delegates_image aliases inner unknown provider lookup selector wrapped visible
  rw [provider.toProvider.select_constant lookup selector values constant,
    inner.select_constant lookup { aliases.image selector.name with text := selector.text } values constant]
  exact delegates.plain bare values

theorem select_blank (blank : selector.arguments = .none) :
    provider.toProvider.select lookup selector = inner.select lookup (aliases.image selector.name) := by
  have delegates := delegates_image aliases inner unknown provider lookup selector wrapped visible
  rw [provider.toProvider.select_constant lookup selector [] (selector.arguments.constant_none lookup blank)]
  by_cases bare : (aliases.image selector.name).text = ""
  · have none := (aliases.image selector.name).arguments_blank bare
    rw [inner.select_constant lookup _ [] (Arguments.constant_none _ lookup none)]
    exact delegates.plain bare []
  · exact delegates.declared bare

theorem resolve_unwritten :
    aliases.resolve { selector with text := "" } = .ok (some (aliases.image selector.name)) := by
  have resolves := resolve_visible aliases inner unknown provider { selector with text := "" } wrapped
    visible
  by_cases bare : (aliases.image selector.name).text = ""
  · rw [resolves, if_pos bare, ← bare]
  · rw [resolves, if_neg bare, if_pos rfl]

theorem select_resolved (literal : selector.arguments.Literal lookup) (asked : Selector kind)
    (resolved : aliases.resolve selector = .ok (some asked)) :
    provider.toProvider.select lookup selector = inner.select lookup asked := by
  rw [resolve_visible aliases inner unknown provider selector wrapped visible] at resolved
  by_cases bare : (aliases.image selector.name).text = ""
  · obtain ⟨values, constant, _⟩ := literal.constant (τ := τ) _ _
    rw [if_pos bare] at resolved
    cases resolved
    exact select_bare aliases inner unknown provider lookup selector wrapped visible values constant bare
  · rw [if_neg bare] at resolved
    by_cases blank : selector.text = ""
    · rw [if_pos blank] at resolved
      cases resolved
      exact select_blank aliases inner unknown provider lookup selector wrapped visible
        (selector.arguments_blank blank)
    · rw [if_neg blank] at resolved
      cases resolved

theorem select_refused (literal : selector.arguments.Literal lookup) (given : selector.arguments ≠ .none)
    (fault : Fault) (refused : aliases.resolve selector = .error fault) (state : σ) :
    (provider.toProvider.select lookup selector).perform state = (.error fault, state) := by
  rw [resolve_visible aliases inner unknown provider selector wrapped visible] at refused
  obtain ⟨values, constant, empty⟩ := literal.constant (τ := τ) _ _
  split at refused
  · cases refused
  · rename_i declared
    split at refused
    · cases refused
    · cases refused
      have found := target_visible _ _ _ provider wrapped selector.name visible
      rw [provider.toProvider.select_constant lookup selector values constant]
      exact provider.plugin_given_twice lookup selector.name values _ found declared
        (mt empty.mp given) state

theorem one_rule (literal : selector.arguments.Literal lookup) :
    OneRule aliases inner provider lookup selector where
  asks := select_resolved aliases inner unknown provider lookup selector wrapped visible literal
  blank none := ⟨_, resolve_unwritten aliases inner unknown provider selector wrapped visible,
    select_blank aliases inner unknown provider lookup selector wrapped visible none⟩
  refuses := select_refused aliases inner unknown provider lookup selector wrapped visible literal

theorem refused_unasked (literal : selector.arguments.Literal lookup) (name : String)
    (defect : AliasDefect) (state after : σ) (log : Log kind τ)
    (told : (provider.logged.toProvider.select lookup selector).perform (state, log) =
      (.error (.invalidAlias name defect), after, log)) :
    selector.arguments ≠ .none ∧ aliases.resolve selector = .error (.invalidAlias name defect) := by
  have rule := one_rule aliases inner.logged unknown provider.logged lookup selector
    (wrap_logged _ _ _ provider wrapped) visible literal
  have asked : ∀ target, provider.logged.toProvider.select lookup selector ≠
      inner.logged.select lookup target := by
    intro target same
    rw [same] at told
    have blamed := (inner.logged_blames lookup target log name defect (state, log) (Nat.le_refl _)).2
      (.invalidAlias name defect) (by rw [told])
    rw [told] at blamed
    rcases blamed with other | longer
    · exact other rfl
    · exact Nat.lt_irrefl _ longer
  have given : selector.arguments ≠ .none := by
    intro none
    obtain ⟨target, _, same⟩ := rule.blank none
    exact asked target same
  refine ⟨given, ?_⟩
  cases resolved : aliases.resolve selector with
  | ok found =>
      cases found with
      | some target => exact absurd (rule.asks target resolved) (asked target)
      | none =>
          rw [resolve_visible aliases inner unknown provider selector wrapped visible] at resolved
          split at resolved
          · cases resolved
          · split at resolved <;> cases resolved
  | error fault =>
      cases told.symm.trans (rule.refuses given fault resolved (state, log))
      rfl

end Wrapped

theorem parameters_agree (aliases : AliasSet kind) (inner : Provider kind σ τ) (unknown : Unknown kind) :
    ∃ provider, wrap aliases inner unknown = .ok provider ∧
      wrap aliases inner.logged unknown = .ok provider.logged ∧
      ∀ (lookup : Lookup) (selector : Selector kind), provider.infos.hasName selector.name = true →
        selector.arguments.Literal lookup →
          OneRule aliases inner provider lookup selector ∧
          OneRule aliases inner.logged provider.logged lookup selector ∧
          ∀ name defect state after log,
            (provider.logged.toProvider.select lookup selector).perform (state, log) =
                (.error (.invalidAlias name defect), after, log) →
              selector.arguments ≠ .none ∧
                aliases.resolve selector = .error (.invalidAlias name defect) := by
  obtain ⟨provider, wrapped⟩ := aliases.wrap_succeeds inner unknown
  have logged := wrap_logged _ _ _ provider wrapped
  refine ⟨provider, wrapped, logged, fun lookup selector visible literal => ⟨?_, ?_, ?_⟩⟩
  · exact one_rule aliases inner unknown provider lookup selector wrapped visible literal
  · exact one_rule aliases inner.logged unknown provider.logged lookup selector logged visible literal
  · exact refused_unasked aliases inner unknown provider lookup selector wrapped visible literal

end AliasedProvider

end Urls

namespace AliasedProvider

attribute [local instance] UrlLibrary.sample

open Swapped in
theorem parameters_agree_reference :
    let lookup : Lookup := fun _ => some .null
    let selector : Selector .plugin := ⟨y, "($v)"⟩
    let fault : Fault := .invalidAlias "y" (.parametersGivenTwice "(x)")
    (wrap swaps counting (unknownName .plugin) = .ok shown ∧
      shown.infos.hasName selector.name = true ∧ selector.arguments.Literal lookup) ∧
      swaps.resolve selector = .error fault ∧
      (shown.logged.toProvider.select lookup selector).perform (0, []) = (.error fault, 0, []) := by
  intro lookup selector fault
  let phrase : Phrase .plugin := .listed .none (.filled (.last .none
    (.word (.reference ⟨"v", by decide⟩)) .none)) .none
  have wrapped : wrap swaps counting (unknownName .plugin) = .ok shown := by rfl
  have visible : shown.infos.hasName selector.name = true := by decide
  have read := selector.arguments_phrase plugin_separable phrase (by decide)
  have literal : selector.arguments.Literal lookup := by
    rw [read]
    exact ⟨⟨trivial, trivial⟩, rfl, fun wanted member => ⟨.null, rfl⟩⟩
  obtain ⟨provider, built, _, agree⟩ := parameters_agree swaps counting (unknownName .plugin)
  cases wrapped.symm.trans built
  obtain ⟨_, rule, _⟩ := agree lookup selector visible literal
  have refused : swaps.resolve selector = .error fault := by decide
  exact ⟨⟨wrapped, visible, literal⟩, refused,
    rule.refuses (by rw [read]; exact nofun) fault refused (0, [])⟩

-- The text is not empty, but it gives no values.
open Swapped in
theorem parameters_blank_disagree :
    let lookup : Lookup := fun _ => none
    let selector : Selector .plugin := ⟨y, "()"⟩
    let fault : Fault := .invalidAlias "y" (.parametersGivenTwice "(x)")
    let run := (shown.logged.toProvider.select lookup selector).perform (0, [])
    (wrap swaps counting (unknownName .plugin) = .ok shown ∧
      shown.infos.hasName selector.name = true ∧ selector.arguments.Literal lookup) ∧
      swaps.resolve selector = .error fault ∧
      run = (.ok 1, 2, [(x, []), (z, [.provided 0])]) ∧
      ¬ (swaps.resolve selector = .error fault ↔ ∃ after, run = (.error fault, after, [])) := by
  intro lookup selector fault run
  let blank : Phrase .plugin := .listed .none (.empty .none) .none
  have wrapped : wrap swaps counting (unknownName .plugin) = .ok shown := by rfl
  have visible : shown.infos.hasName selector.name = true := by decide
  have read := selector.arguments_phrase plugin_separable blank (by decide)
  have literal : selector.arguments.Literal lookup := by
    rw [read]
    exact ⟨trivial, rfl, List.forall_mem_nil _⟩
  have refused : swaps.resolve selector = .error fault := by decide
  have asked := select_blank swaps counting.logged (unknownName .plugin) shown.logged lookup selector
    (wrap_logged _ _ _ shown wrapped) visible read
  have image : swaps.image selector.name = ⟨z, "(x)"⟩ := by decide
  have made : run = (.ok 1, 2, [(x, []), (z, [.provided 0])]) := by
    change (shown.logged.toProvider.select lookup selector).perform (0, []) = _
    rw [asked, image, Provider.select, Selector.evaluate_phrase _ _ _ plugin_separable
      (phrase x (by decide)) (by decide)]
    rfl
  refine ⟨⟨wrapped, visible, literal⟩, refused, made, fun same => ?_⟩
  obtain ⟨after, failed⟩ := same.mp refused
  rw [made] at failed
  cases failed

end AliasedProvider

end PluginNaming
