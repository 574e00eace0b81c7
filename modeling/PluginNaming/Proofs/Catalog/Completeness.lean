import PluginNaming.Proofs.Catalog.Resolution

set_option autoImplicit false

namespace PluginNaming

section Urls

variable [UrlLibrary]

namespace Entry

def Bare (entry : Entry) : Prop :=
  ∀ aliases, entry.aliases = some aliases → ∀ d ∈ aliases.declarations,
    ∀ selector, d.selector? = some selector → selector.text = ""

variable (entry : Entry)

theorem image_bare (bare : entry.Bare) (name : Name .plugin) : (entry.image name).text = "" := by
  cases declared : entry.aliases with
  | none => rw [entry.image_alone declared]
  | some aliases =>
      rw [entry.image_aliased aliases declared]
      cases selects : aliases.selector? name with
      | none => rw [AliasSet.image, selects, Option.getD_none]
      | some selector =>
          obtain ⟨d, member, _, given⟩ := (aliases.selector_iff name selector).mp selects
          rw [aliases.image_selected name selector selects]
          exact bare aliases declared d member selector given

theorem image_listed (name : Name .plugin) (visible : entry.shows name = true) :
    ∃ info, entry.infos.byName? (entry.image name).name = some info := by
  have given : entry.infos.hasName (entry.image name).name = true := by
    unfold shows Entry.visible at visible
    unfold image
    cases declared : entry.aliases with
    | none => simpa [declared] using visible
    | some aliases =>
        obtain ⟨merged, succeeds, _⟩ := aliases.merge_shows entry.infos
        simp only [declared, succeeds] at visible
        exact (aliases.merged_target entry.infos merged succeeds name visible).2
  obtain ⟨info, member, named⟩ := (InfoSet.has_name_iff _ _).mp given
  exact ⟨info, (InfoSet.by_name_iff _ _ _).mpr ⟨member, named⟩⟩

theorem listed_answers (lookup : Lookup) (name : Name .plugin) (info : Info .plugin)
    (found : entry.infos.byName? name = some info) :
    Answers (entry.listed.plugin lookup) entry.Makes name := by
  intro values state
  have made : entry.make name values = .ok (.made entry.name info values) := by simp [make, found]
  refine ⟨_, state, ?_, info, found, rfl⟩
  change (liftExcept (entry.make name values) : Action Unit Instance).perform state = _
  rw [Action.perform_lift, made]

theorem provider_answers (bare : entry.Bare) (provider : Provider .plugin Unit Instance)
    (made : entry.provider = .ok provider) (lookup : Lookup) (name : Name .plugin)
    (visible : entry.shows name = true) (values : List (Value Instance)) (state : Unit) :
    ∃ tree after, (provider.plugin lookup name values).perform state = (.ok tree, after) ∧
      entry.Makes (entry.image name).name values tree := by
  obtain ⟨info, listed⟩ := entry.image_listed name visible
  have answers := entry.listed_answers lookup _ info listed values state
  have shown := (entry.provider_shows provider made name).trans visible
  rcases provider_cases entry provider made with ⟨alone, rfl⟩ | ⟨aliases, wrapped, declared, built, rfl⟩
  · rw [entry.image_alone alone] at answers ⊢
    exact answers
  · obtain ⟨_, _, inner, _⟩ := AliasedProvider.wrap_ok _ _ _ _ built
    have reached := AliasedProvider.target_visible _ _ _ _ built name shown
    rw [← entry.image_aliased aliases declared] at reached
    have delegates := (wrapped.delegates lookup name _ reached).plain (entry.image_bare bare name) values
    rw [inner] at delegates
    change ∃ tree after, (wrapped.plugin lookup name values).perform state = _ ∧ _
    rw [delegates]
    exact answers

end Entry

namespace Catalog

variable (catalog : Catalog)

def Makes : Service .plugin Instance :=
  fun name values tree => ∃ entry, catalog.first? name = some entry ∧
    entry.Makes (entry.image name).name values tree

theorem registry_answers (bare : ∀ entry ∈ catalog.entries, entry.Bare)
    (registry : Registry .plugin Unit Instance) (built : catalog.registry = .ok registry)
    (lookup : Lookup) (name : Name .plugin) (owner : Provider .plugin Unit Instance)
    (owns : registry.ownerOf? name = some owner) :
    Answers (registry.plugin lookup) catalog.Makes name := by
  intro values state
  obtain ⟨entry, first, provides⟩ := catalog.owner_shows registry built name owner owns
  obtain ⟨within, visible⟩ := catalog.first_some name entry first
  obtain ⟨tree, after, made, listed⟩ :=
    entry.provider_answers (bare entry within) owner provides lookup name visible values state
  refine ⟨tree, after, ?_, entry, first, listed⟩
  rw [registry.plugin_owned name owner lookup values owns, made]

-- The own name of a selector is looked up before its text is evaluated, and once more after that.
theorem select_complete (bare : ∀ entry ∈ catalog.entries, entry.Bare) :
    ∃ registry, catalog.registry = .ok registry ∧
      ∀ (lookup : Lookup) (selector : Selector .plugin) (phrase : Phrase .plugin),
        phrase.print = selector.text.toList →
        (∀ wanted ∈ phrase.references, ∃ value, lookup wanted = some value) →
        (∀ name ∈ selector.names phrase, ∃ owner, registry.ownerOf? name = some owner) →
          (∀ name ∈ selector.names phrase, ∃ entry owner, catalog.first? name = some entry ∧
            entry.provider = .ok owner ∧ registry.ownerOf? name = some owner) ∧
          ∃ values tree, phrase.Gives lookup catalog.Makes values ∧
            catalog.Makes selector.name values tree ∧
            (registry.select lookup selector).perform () = (.ok tree, ()) := by
  obtain ⟨_, registry, _, built⟩ := catalog.registry_succeeds
  refine ⟨registry, built, fun lookup selector phrase written known owned => ⟨?_, ?_⟩⟩
  · intro name member
    obtain ⟨owner, owns⟩ := owned name member
    obtain ⟨entry, first, provides⟩ := catalog.owner_shows registry built name owner owns
    exact ⟨entry, owner, first, provides, owns⟩
  · have answers : ∀ name ∈ selector.names phrase,
        Answers (registry.plugin lookup) catalog.Makes name := by
      intro name member
      obtain ⟨owner, owns⟩ := owned name member
      exact catalog.registry_answers bare registry built lookup name owner owns
    obtain ⟨owner, owns⟩ := owned selector.name List.mem_cons_self
    obtain ⟨values, _, evaluated, given⟩ := Selector.evaluate_answered lookup _ catalog.Makes
      plugin_separable selector phrase written
      (fun name member => answers name (List.mem_cons_of_mem _ member)) known ()
    obtain ⟨tree, _, made, served⟩ := answers selector.name List.mem_cons_self values ()
    refine ⟨values, tree, given, served, ?_⟩
    rw [Registry.select, registry.require_owned _ owner owns]
    exact (Action.bind_ok _ _ _ _ values evaluated).trans made

end Catalog

end Urls

namespace Catalog

attribute [local instance] UrlLibrary.sample

namespace Linked

open AliasedProvider.Swapped (x y counting)

open Walled (outer)

def wanted : Name .environment := ⟨"v", by decide⟩

def renames : AliasSet .plugin :=
  ⟨_, ⟨[⟨x, .renamed ⟨outer, ""⟩⟩], rfl⟩⟩

def core : Entry :=
  { Walled.core with aliases := some renames }

def other : Entry where
  name := ⟨"other", by decide⟩
  url := ⟨"a://q", by rfl⟩
  infos := counting.infos
  aliases := none

def linked : Catalog where
  entries := [core, other]
  environment := .empty
  distinct := by decide

def gathered : Registry .plugin Unit Instance :=
  .ofList [{ Walled.shown with aliases := renames }.toProvider, other.listed] (unknownName .plugin)

def phrase : Phrase .plugin :=
  .listed .none (.filled (.more .none (.word (.name x (by decide))) .none
    (.last .none (.word (.reference wanted)) .none))) .none

theorem entries_bare : ∀ entry ∈ linked.entries, entry.Bare := by
  intro entry member aliases declared d inside selector selects
  simp only [linked, List.mem_cons, List.not_mem_nil, or_false] at member
  rcases member with rfl | rfl
  · cases declared
    have content : renames.declarations = [⟨x, .renamed ⟨outer, ""⟩⟩] := by rfl
    rw [content, List.mem_singleton] at inside
    cases inside
    cases selects
    rfl
  · cases declared

end Linked

open Linked AliasedProvider.Swapped in
theorem select_linked :
    ((∀ entry ∈ linked.entries, entry.Bare) ∧ linked.registry = .ok gathered) ∧
      ∃ tree, (gathered.select (fun _ => some .null) ⟨y, "(x,$v)"⟩).perform () = (.ok tree, ()) ∧
        tree.provider = other.name := by
  have same : linked.registry = .ok gathered := by rfl
  obtain ⟨registry, built, complete⟩ := select_complete linked entries_bare
  obtain rfl := Except.ok.inj (same.symm.trans built)
  have owned : ∀ name ∈ [y, x], ∃ owner, gathered.ownerOf? name = some owner := by
    intro name member
    simp only [List.mem_cons, List.not_mem_nil, or_false] at member
    rcases member with rfl | rfl
    · exact ⟨other.listed, by rfl⟩
    · exact ⟨{ Walled.shown with aliases := renames }.toProvider, by rfl⟩
  obtain ⟨_, values, tree, _, ⟨entry, first, info, _, rfl⟩, ran⟩ :=
    complete (fun _ => some .null) ⟨y, "(x,$v)"⟩ phrase rfl (fun _ _ => ⟨.null, rfl⟩) owned
  have shown : linked.first? y = some other := by rfl
  cases shown.symm.trans first
  exact ⟨⟨entries_bare, same⟩, _, ran, rfl⟩

end Catalog

end PluginNaming
