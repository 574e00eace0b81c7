import PluginNaming.Proofs.AliasSet.Merge
import PluginNaming.Proofs.Translation

/- The declarations give the name that a shown name stands for, and a translation gives the name that the
   provider has for its url. They part at an alias with a url which the provider has for something else;
   the alias takes the place of that. -/

set_option autoImplicit false

namespace PluginNaming

open Ordered

section Urls

variable [UrlLibrary] {kind : NameKind}

namespace AliasSet

section Identity

variable (set : AliasSet kind) (provided : InfoSet kind)

def Diverts (name : Name kind) : Prop :=
  ∃ d ∈ set.declarations, d.name = name ∧ ∃ selector url, d.target = .published selector url ∧
    ∃ source ∈ provided.infos, source.url = url ∧ source.name ≠ selector.name

theorem diverts_iff (d : Alias kind) (declared : d ∈ set.declarations) (selector : Selector kind)
    (source : Info kind) (target : d.target = .published selector source.url)
    (given : source ∈ provided.infos) :
    set.Diverts provided d.name ↔ selector.name ≠ source.name := by
  constructor
  · rintro ⟨other, also, named, selector', url, target', source', given', placed, different⟩
    have same := set.same_declaration other d also declared named
    rw [same, target] at target'
    cases target'
    exact InfoSet.same_url provided source' source given' given placed ▸ different.symm
  · intro different
    exact ⟨d, declared, rfl, selector, source.url, target, source, given, rfl, different.symm⟩

theorem undiverted (d : Alias kind) (declared : d ∈ set.declarations) (own : d.url? = none) :
    ¬ set.Diverts provided d.name := by
  rintro ⟨other, also, named, selector, url, target, _⟩
  have same := set.same_declaration other d also declared named
  simp [← same, Alias.url?, target] at own

theorem shown_target (info source : Info kind) (shows : set.Shows provided info)
    (given : source ∈ provided.infos) (placed : source.url = info.url) :
    set.target? info.name = some source.name ↔ ¬ set.Diverts provided info.name := by
  cases shows with
  | published _ active =>
      obtain ⟨d, declared, named, selector, target, _⟩ := active
      rw [← named, set.diverts_iff provided d declared selector source (placed ▸ target) given, not_not]
      have stands := (set.target_iff d.name selector.name).mpr
        ⟨d, declared, rfl, by simp [Alias.standsFor, target]⟩
      rw [stands, Option.some.injEq]
  | renamed d declared selector target origin own named _ =>
      have same := InfoSet.same_url provided source origin given own placed
      have stands := (set.target_iff d.name source.name).mpr
        ⟨d, declared, rfl, by simp [Alias.standsFor, target, same, named]⟩
      exact iff_of_true stands (set.undiverted provided d declared (by simp [Alias.url?, target]))
  | plain d declared target _ own named _ =>
      have same := InfoSet.same_url provided source info given own placed
      have stands := (set.target_iff info.name source.name).mpr
        ⟨d, declared, named.symm, by simp [Alias.standsFor, target, same, named]⟩
      exact iff_of_true stands
        (named ▸ set.undiverted provided d declared (by simp [Alias.url?, target]))

theorem merge_identity (unknown : Unknown kind) :
    ∃ merged, set.merge provided = .ok merged ∧
      (∀ info ∈ merged.infos, ∀ source ∈ provided.infos, source.url = info.url →
        (set.target? info.name = some source.name ↔ ¬ set.Diverts provided info.name)) ∧
      ∀ name target, (Translation.filtered merged provided unknown).name name = .ok target →
        (set.target? name = some target ↔ ¬ set.Diverts provided name) := by
  obtain ⟨merged, succeeds, content⟩ := set.merge_shows provided
  refine ⟨merged, succeeds, ?_, ?_⟩
  · intro info member source given placed
    exact set.shown_target provided info source ((content info).mp member) given placed
  · intro name target translated
    obtain ⟨info, member, rfl, source, given, placed, rfl⟩ :=
      (Translation.filtered_name_iff merged provided unknown name target).mp translated
    exact set.shown_target provided info source ((content info).mp member) given placed

end Identity

end AliasSet

end Urls

namespace AliasSet

attribute [local instance] UrlLibrary.sample

-- The alias `x` of `a` takes the url of `b`, so it means `a` by its declaration and `b` by its url.
theorem merge_identity_diverted :
    let a : Info .plugin := ⟨⟨"a://a", by rfl⟩, ⟨"a", by decide⟩⟩
    let b : Info .plugin := ⟨⟨"a://b", by rfl⟩, ⟨"b", by decide⟩⟩
    let x : Info .plugin := b.rename ⟨"x", by decide⟩
    ∃ set, ofList [⟨x.name, .published ⟨a.name, ""⟩ b.url⟩] = .ok set ∧
      ∃ provided, InfoSet.ofList [a, b] = .ok provided ∧
        ∃ merged, set.merge provided = .ok merged ∧ x ∈ merged.infos ∧ b ∈ provided.infos ∧
          b.url = x.url ∧ set.target? x.name = some a.name ∧ a.name ≠ b.name ∧
          (Translation.filtered merged provided (unknownName .plugin)).name x.name = .ok b.name := by
  intro a b x
  let declaration : Alias .plugin := ⟨x.name, .published ⟨a.name, ""⟩ b.url⟩
  obtain ⟨set, built⟩ := of_list_ok [declaration] ⟨⟨by decide, by decide, by decide⟩, by decide⟩
  obtain ⟨provided, collected, infos⟩ := InfoSet.of_list_succeeds [a, b] ⟨by decide, by decide⟩
  obtain ⟨merged, succeeds, content⟩ := set.merge_shows provided
  have declared : declaration ∈ set.declarations := by
    rw [((of_list_ok_iff _ set).mp built).2.declarations]
    exact List.mem_singleton_self declaration
  have has : ∀ info ∈ [a, b], info ∈ provided.infos := by
    intro info member
    rwa [infos, mem_sorted]
  have givenA := has a List.mem_cons_self
  have givenB := has b (List.mem_cons_of_mem a List.mem_cons_self)
  have shown : x ∈ merged.infos :=
    (content x).mpr (.published x ⟨declaration, declared, rfl, ⟨a.name, ""⟩, rfl, a, givenA, rfl⟩)
  refine ⟨set, built, provided, collected, merged, succeeds, shown, givenB, rfl, ?_, by decide, ?_⟩
  · exact (set.target_iff x.name a.name).mpr ⟨declaration, declared, rfl, rfl⟩
  · exact (Translation.filtered_name_iff merged provided _ x.name b.name).mpr
      ⟨x, shown, rfl, b, givenB, rfl, rfl⟩

end AliasSet

end PluginNaming
