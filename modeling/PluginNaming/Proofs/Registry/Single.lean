import PluginNaming.Proofs.Provider.Visibility
import PluginNaming.Proofs.Registry.Bystander

/- A name that the only provider does not publish fails on both sides, in the registry for want of an owner
   and in the provider because it makes nothing for it; the two may tell so at different places and with
   different faults. -/

set_option autoImplicit false

namespace PluginNaming

variable {kind : NameKind} {σ τ : Type}

theorem Selector.mentions_served (selector : Selector kind) (lookup : Lookup) (call : Call kind σ τ)
    (served : Name kind → Prop) (obeys : Obeys call fun name _ _ => served name) (state : σ) (made : τ)
    (found : ((selector.evaluate lookup call >>= call selector.name).perform state).1 = .ok made) :
    ∀ name ∈ selector.mentions, served name := by
  obtain ⟨values, evaluated, last⟩ := Action.ok_of_bind _ _ _ _ found
  have ran := selector.evaluate_ok lookup call state values evaluated
  intro name member
  rcases List.mem_cons.mp member with rfl | nested
  · exact obeys _ values _ made last
  · exact Arguments.served_of_ok lookup call _ served obeys _ state values ran name nested

variable [UrlLibrary]

namespace Provider

def Covers (provider : Provider kind σ τ) (selector : Selector kind) : Prop :=
  ∀ name ∈ selector.mentions, provider.infos.hasName name = true

def Honest (provider : Provider kind σ τ) : Prop :=
  ∀ lookup, Obeys (provider.plugin lookup) fun name _ _ => provider.infos.hasName name = true

theorem covers_of_ok (provider : Provider kind σ τ) (honest : provider.Honest) (lookup : Lookup)
    (selector : Selector kind) (state : σ) (made : τ)
    (found : ((provider.select lookup selector).perform state).1 = .ok made) :
    provider.Covers selector :=
  selector.mentions_served lookup (provider.plugin lookup) _ (honest lookup) state made found

end Provider

theorem AliasedProvider.honest (provider : AliasedProvider kind σ τ) : provider.toProvider.Honest := by
  intro lookup name values state made found
  obtain ⟨target, reached, _⟩ := provider.plugin_ok lookup name values state made found
  exact (provider.target_ok name target reached).1

theorem Entry.listed_honest (entry : Entry) : entry.listed.Honest := by
  intro lookup name values state made found
  change ((liftExcept (entry.make name values) : Action Unit Instance).perform state).1 = .ok made
    at found
  rw [Action.perform_lift] at found
  unfold make at found
  cases known : entry.infos.byName? name with
  | none =>
      rw [known] at found
      cases found
  | some info =>
      obtain ⟨member, named⟩ := (InfoSet.by_name_iff _ _ _).mp known
      exact (InfoSet.has_name_iff _ _).mpr ⟨info, member, named⟩

namespace Registry

section Single

variable (provider : Provider kind σ τ) (unknown : Unknown kind) (lookup : Lookup)

theorem owner_single (name : Name kind) :
    (ofList [provider] unknown).ownerOf? name =
      if provider.infos.hasName name = true then some provider else none := by
  by_cases published : provider.infos.hasName name = true
  · rw [if_pos published]
    apply alone_owns
    simp [published]
  · rw [if_neg published, owner_of_list]
    simp [published]

theorem single_covers (selector : Selector kind) (state : σ) (made : τ)
    (found : (((ofList [provider] unknown).select lookup selector).perform state).1 = .ok made) :
    provider.Covers selector := by
  cases owns : (ofList [provider] unknown).ownerOf? selector.name with
  | none =>
      rw [select_unowned _ lookup selector owns] at found
      cases found
  | some owner =>
      rw [select_owned _ lookup selector owner owns] at found
      intro name member
      obtain ⟨other, owned⟩ :=
        selector.mentions_served lookup _ _ (plugin_obeys _ lookup) state made found name member
      by_contra hidden
      rw [owner_single, if_neg hidden] at owned
      cases owned

theorem single_same (selector : Selector kind) (covers : provider.Covers selector) :
    (ofList [provider] unknown).select lookup selector = provider.select lookup selector := by
  have owned : ∀ name ∈ selector.mentions,
      (ofList [provider] unknown).ownerOf? name = some provider := by
    intro name member
    rw [owner_single, if_pos (covers name member)]
  have asked : ∀ name ∈ selector.mentions,
      (ofList [provider] unknown).plugin lookup name = provider.plugin lookup name := by
    intro name member
    funext values
    exact plugin_owned name _ provider lookup values (owned name member)
  have own : selector.name ∈ selector.mentions := List.mem_cons_self
  rw [select_owned _ lookup selector provider (owned selector.name own), asked selector.name own,
    selector.evaluate_congr lookup _ _ asked, Provider.select]

end Single

structure Transparent (provider : Provider kind σ τ) (unknown : Unknown kind) (lookup : Lookup)
    (selector : Selector kind) : Prop where
  succeeds : ∀ state made after,
    ((ofList [provider] unknown).select lookup selector).perform state = (.ok made, after) ↔
      (provider.select lookup selector).perform state = (.ok made, after)
  covered : provider.Covers selector →
    (ofList [provider] unknown).select lookup selector = provider.select lookup selector

theorem transparent (provider : Provider kind σ τ) (honest : provider.Honest) (unknown : Unknown kind)
    (lookup : Lookup) (selector : Selector kind) : Transparent provider unknown lookup selector where
  succeeds state made after := by
    constructor
    · intro found
      have covers := single_covers provider unknown lookup selector state made (by rw [found])
      rwa [single_same provider unknown lookup selector covers] at found
    · intro found
      have covers := provider.covers_of_ok honest lookup selector state made (by rw [found])
      rwa [single_same provider unknown lookup selector covers]
  covered := single_same provider unknown lookup selector

theorem select_single (entry : Entry) (unknown : Unknown .plugin) (lookup : Lookup)
    (selector : Selector .plugin) :
    Transparent entry.listed unknown lookup selector ∧
      ∀ (aliases : AliasSet .plugin) (refusal : Unknown .plugin), ∃ aliased,
        AliasedProvider.wrap aliases entry.listed refusal = .ok aliased ∧
          Transparent aliased.toProvider unknown lookup selector := by
  refine ⟨transparent _ entry.listed_honest unknown lookup selector, fun aliases refusal => ?_⟩
  obtain ⟨aliased, wrapped⟩ := aliases.wrap_succeeds entry.listed refusal
  exact ⟨aliased, wrapped, transparent _ aliased.honest unknown lookup selector⟩

end Registry

end PluginNaming
