import PluginNaming.Proofs.Provider.Substitution

set_option autoImplicit false

namespace PluginNaming

variable [UrlLibrary] {kind : NameKind} {σ τ : Type}

namespace AliasSet

variable (set : AliasSet kind) (provided : InfoSet kind)

theorem image_selected (name : Name kind) (selector : Selector kind)
    (selects : set.selector? name = some selector) : set.image name = selector := by
  rw [image, selects, Option.getD_some]

theorem image_declared (d : Alias kind) (declared : d ∈ set.declarations) :
    (set.image d.name).name = d.standsFor := by
  cases target : d.target with
  | itself =>
      have plain := (set.plain_iff d.name).mpr ⟨d, declared, rfl, target⟩
      simp [image, set.tabulated.apart _ plain, Alias.standsFor, target]
  | renamed selector | published selector _ =>
      have selects := (set.selector_iff d.name selector).mpr
        ⟨d, declared, rfl, by simp [Alias.selector?, target]⟩
      simp [set.image_selected _ _ selects, Alias.standsFor, target]

theorem merged_target (merged : InfoSet kind) (succeeds : set.merge provided = .ok merged)
    (name : Name kind) (visible : merged.hasName name = true) :
    set.target? name = some (set.image name).name ∧
      provided.hasName (set.image name).name = true := by
  obtain ⟨again, also, shows⟩ := set.merge_shows provided
  cases succeeds.symm.trans also
  obtain ⟨info, member, rfl⟩ := (InfoSet.has_name_iff _ _).mp visible
  obtain ⟨d, declared, named, given⟩ := set.shown_declared provided info ((shows info).mp member)
  rw [← named, set.image_declared d declared]
  exact ⟨(set.target_iff _ _).mpr ⟨d, declared, rfl, rfl⟩, given⟩

end AliasSet

namespace AliasedProvider

structure Refuses (provider : AliasedProvider kind σ τ) (lookup : Lookup) (name : Name kind)
    (values : List (Value τ)) (fault : Fault) : Prop where
  plain : ∀ state, (provider.plugin lookup name values).perform state = (.error fault, state)
  logged : ∀ state log, (provider.logged.plugin lookup name values).perform (state, log) =
    (.error fault, (state, log))

section Plugin

variable (provider : AliasedProvider kind σ τ) (lookup : Lookup) (name : Name kind)
  (values : List (Value τ))

theorem target_hidden (hidden : provider.infos.hasName name = false) :
    provider.target name = .error (provider.unknown name) := by
  unfold target
  rw [if_neg (Bool.not_eq_true _ ▸ hidden)]

theorem target_ok (selector : Selector kind) (found : provider.target name = .ok selector) :
    provider.infos.hasName name = true ∧
      provider.aliases.resolve { name, text := "" } = .ok (some selector) := by
  unfold target at found
  split at found
  · rename_i visible
    split at found
    · rename_i resolved
      cases found
      exact ⟨visible, resolved⟩
    · cases found
    · cases found
  · cases found

theorem plugin_of_fault (fault : Fault) (found : provider.target name = .error fault) (state : σ) :
    (provider.plugin lookup name values).perform state = (.error fault, state) := by
  unfold plugin
  rw [found]
  rfl

theorem plugin_given_twice (target : Selector kind) (found : provider.target name = .ok target)
    (declared : target.text ≠ "") (given : values ≠ []) (state : σ) :
    (provider.plugin lookup name values).perform state =
      (.error (.invalidAlias name.text (.parametersGivenTwice target.text)), state) := by
  have called : provider.plugin lookup name values =
      throw (.invalidAlias name.text (.parametersGivenTwice target.text)) := by
    simp [plugin, found, declared, given, liftExcept]
  rw [called]
  rfl

theorem plugin_ok (state : σ) (plugin : τ)
    (found : ((provider.plugin lookup name values).perform state).1 = .ok plugin) :
    ∃ target, provider.target name = .ok target ∧
      ((target.text = "" ∧
          ((provider.inner.plugin lookup target.name values).perform state).1 = .ok plugin) ∨
        (target.text ≠ "" ∧ values = [] ∧ ∃ declared between,
          ((target.evaluate lookup (provider.inner.plugin lookup)).perform state).1 = .ok declared ∧
          ((provider.inner.plugin lookup target.name declared).perform between).1 = .ok plugin)) := by
  cases reached : provider.target name with
  | error fault =>
      rw [provider.plugin_of_fault lookup name values fault reached] at found
      cases found
  | ok target =>
      have delegates := provider.delegates lookup name target reached
      refine ⟨target, rfl, ?_⟩
      by_cases empty : target.text = ""
      · rw [delegates.plain empty] at found
        exact .inl ⟨empty, found⟩
      · by_cases given : values = []
        · subst given
          rw [delegates.declared empty] at found
          obtain ⟨declared, evaluated, made⟩ := Action.ok_of_bind _ _ _ _ found
          exact .inr ⟨empty, rfl, declared, _, evaluated, made⟩
        · rw [provider.plugin_given_twice lookup name values target reached empty given] at found
          cases found

end Plugin

-- The logged provider has the same target for each name, so its log tells what is asked for.
theorem plugin_exact (aliases : AliasSet kind) (inner : Provider kind σ τ) (unknown : Unknown kind) :
    ∃ provider, wrap aliases inner unknown = .ok provider ∧
      wrap aliases inner.logged unknown = .ok provider.logged ∧
      aliases.merge inner.infos = .ok provider.infos ∧
      ∀ (lookup : Lookup) (name : Name kind),
        (provider.infos.hasName name = false →
          ∀ values, provider.Refuses lookup name values (unknown name)) ∧
        (provider.infos.hasName name = true → ∃ target,
          provider.target name = .ok target ∧
          aliases.resolve { name, text := "" } = .ok (some target) ∧
          aliases.target? name = some target.name ∧
          inner.infos.hasName target.name = true ∧
          Delegates lookup (provider.plugin lookup) (inner.plugin lookup) name target ∧
          Delegates lookup (provider.logged.plugin lookup) (inner.logged.plugin lookup) name target ∧
          (target.text ≠ "" → ∀ values, values ≠ [] → provider.Refuses lookup name values
            (.invalidAlias name.text (.parametersGivenTwice target.text)))) := by
  obtain ⟨provider, wrapped⟩ := aliases.wrap_succeeds inner unknown
  obtain ⟨merged, rfl, rfl, rfl⟩ := wrap_ok aliases inner unknown provider wrapped
  refine ⟨provider, wrapped, wrap_logged _ _ _ provider wrapped, merged, fun lookup name => ⟨?_, ?_⟩⟩
  · intro hidden values
    have fails := provider.target_hidden name hidden
    exact ⟨provider.plugin_of_fault lookup name values _ fails,
      fun state log => provider.logged.plugin_of_fault lookup name values _ fails (state, log)⟩
  · intro visible
    have found := target_visible _ _ _ provider wrapped name visible
    obtain ⟨target, published⟩ := provider.aliases.merged_target _ _ merged name visible
    refine ⟨provider.aliases.image name, found, (provider.target_ok name _ found).2, target,
      published, provider.delegates lookup name _ found, provider.logged.delegates lookup name _ found,
      fun declared values given => ?_⟩
    exact ⟨provider.plugin_given_twice lookup name values _ found declared given,
      fun state log => provider.logged.plugin_given_twice lookup name values _ found declared given
        (state, log)⟩

end AliasedProvider

end PluginNaming
