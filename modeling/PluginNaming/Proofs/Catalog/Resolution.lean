import PluginNaming.Proofs.Provider.Visibility
import PluginNaming.Proofs.Registry.Owner
import PluginNaming.Proofs.Selector.Outcome

set_option autoImplicit false

namespace PluginNaming

section Urls

variable [UrlLibrary]

inductive Instance.Within : Instance → Instance → Prop where
  | here (tree : Instance) : Within tree tree
  | inside (node nested tree : Instance) (given : .provided nested ∈ tree.values)
      (within : Within node nested) : Within node tree

namespace Entry

def visible (entry : Entry) : Except Fault (InfoSet .plugin) :=
  match entry.aliases with
  | none => .ok entry.infos
  | some aliases => aliases.merge entry.infos

def shows (entry : Entry) (name : Name .plugin) : Bool :=
  match entry.visible with
  | .ok infos => infos.hasName name
  | .error _ => false

def image (entry : Entry) (name : Name .plugin) : Selector .plugin :=
  match entry.aliases with
  | none => { name, text := "" }
  | some aliases => aliases.image name

def Makes (entry : Entry) : Service .plugin Instance :=
  fun name values tree =>
    ∃ info, entry.infos.byName? name = some info ∧ tree = .made entry.name info values

-- What an alias declares is made from the infos of the entry, whether they are shown or not.
inductive Serves (entry : Entry) (lookup : Lookup) (name : Name .plugin) :
    List (Value Instance) → Instance → Prop where
  | plain (bare : (entry.image name).text = "") (values : List (Value Instance)) (tree : Instance)
      (made : entry.Makes (entry.image name).name values tree) : Serves entry lookup name values tree
  | declared (some : (entry.image name).text ≠ "") (phrase : Phrase .plugin)
      (written : phrase.print = (entry.image name).text.toList) (values : List (Value Instance))
      (given : phrase.Gives lookup entry.Makes values) (tree : Instance)
      (made : entry.Makes (entry.image name).name values tree) : Serves entry lookup name [] tree

theorem image_alone (entry : Entry) (alone : entry.aliases = none) (name : Name .plugin) :
    entry.image name = { name, text := "" } := by
  rw [image, alone]

theorem image_aliased (entry : Entry) (aliases : AliasSet .plugin)
    (declared : entry.aliases = some aliases) (name : Name .plugin) :
    entry.image name = aliases.image name := by
  rw [image, declared]

theorem make_ok_iff (entry : Entry) (name : Name .plugin) (values : List (Value Instance))
    (tree : Instance) : entry.make name values = .ok tree ↔ entry.Makes name values tree := by
  unfold make Makes
  cases entry.infos.byName? name with
  | none => simp
  | some info => simp [eq_comm]

theorem listed_obeys (entry : Entry) (lookup : Lookup) :
    Obeys (entry.listed.plugin lookup) entry.Makes := by
  intro name values state tree found
  change ((liftExcept (entry.make name values) : Action Unit Instance).perform state).1 = _ at found
  rw [Action.perform_lift] at found
  exact (entry.make_ok_iff name values tree).mp found

section Provider

variable (entry : Entry) (provider : Provider .plugin Unit Instance)
  (made : entry.provider = .ok provider)

include made

theorem provider_cases :
    (entry.aliases = none ∧ provider = entry.listed) ∨
      ∃ aliases wrapped, entry.aliases = some aliases ∧
        AliasedProvider.wrap aliases entry.listed (unknownName .plugin) = .ok wrapped ∧
        provider = wrapped.toProvider := by
  unfold Entry.provider at made
  split at made
  · rename_i alone
    cases made
    exact .inl ⟨alone, rfl⟩
  · rename_i aliases declared
    obtain ⟨wrapped, built, shape⟩ := (bind_ok_iff _ _ _).mp made
    cases shape
    exact .inr ⟨aliases, wrapped, declared, built, rfl⟩

theorem provider_shows (name : Name .plugin) : provider.infos.hasName name = entry.shows name := by
  rcases provider_cases entry provider made with ⟨alone, rfl⟩ | ⟨aliases, wrapped, declared, built, rfl⟩
  · simp [shows, visible, alone, listed]
  · obtain ⟨merged, _⟩ := AliasedProvider.wrap_ok _ _ _ _ built
    have same : entry.visible = .ok wrapped.infos := by
      rw [visible, declared]
      exact merged
    simp [shows, same, AliasedProvider.toProvider]

theorem provider_obeys (lookup : Lookup) : Obeys (provider.plugin lookup) (entry.Serves lookup) := by
  intro name values state tree found
  rcases provider_cases entry provider made with ⟨alone, rfl⟩ | ⟨aliases, wrapped, declared, built, rfl⟩
  · have image := entry.image_alone alone name
    refine .plain (by rw [image]) values tree ?_
    rw [image]
    exact entry.listed_obeys lookup name values state tree found
  · have image := entry.image_aliased aliases declared name
    obtain ⟨_, _, inner, _⟩ := AliasedProvider.wrap_ok _ _ _ _ built
    obtain ⟨target, reached, outcome⟩ := wrapped.plugin_ok lookup name values state tree found
    have visible := (wrapped.target_ok name target reached).1
    have same := AliasedProvider.target_visible _ _ _ _ built name visible
    cases reached.symm.trans same
    rw [inner, ← image] at outcome
    rcases outcome with ⟨empty, given⟩ | ⟨some, rfl, values, between, evaluated, given⟩
    · exact .plain empty values tree (entry.listed_obeys lookup _ values state tree given)
    · obtain ⟨phrase, written, gives⟩ := Selector.evaluate_gives lookup _ entry.Makes plugin_separable
        (entry.listed_obeys lookup) (entry.image name) state values evaluated
      exact .declared some phrase written values gives tree
        (entry.listed_obeys lookup _ values between tree given)

end Provider

end Entry

namespace Catalog

variable (catalog : Catalog)

def first? (name : Name .plugin) : Option Entry :=
  catalog.entries.find? fun entry => entry.shows name

def Serves (lookup : Lookup) : Service .plugin Instance :=
  fun name values tree =>
    ∃ entry, catalog.first? name = some entry ∧ entry.Serves lookup name values tree

theorem first_some (name : Name .plugin) (entry : Entry) (first : catalog.first? name = some entry) :
    entry ∈ catalog.entries ∧ entry.shows name = true := by
  have shown := List.find?_some first
  exact ⟨List.mem_of_find?_eq_some first, shown⟩

theorem first_provider (entries : List Entry) (providers : List (Provider .plugin Unit Instance))
    (made : entries.mapM Entry.provider = .ok providers) (name : Name .plugin) :
    Option.Rel (fun entry provider => entry.provider = .ok provider)
      (entries.find? fun entry => entry.shows name)
      (providers.find? fun provider => provider.infos.hasName name) := by
  induction entries generalizing providers with
  | nil =>
      cases made
      exact .none
  | cons entry rest hypothesis =>
      rw [List.mapM_cons] at made
      obtain ⟨provider, first, next⟩ := (bind_ok_iff _ _ _).mp made
      obtain ⟨others, following, whole⟩ := (bind_ok_iff _ _ _).mp next
      cases whole
      rw [List.find?_cons, List.find?_cons, entry.provider_shows provider first name]
      cases entry.shows name with
      | true => exact .some first
      | false => exact hypothesis others following

theorem registry_built (registry : Registry .plugin Unit Instance)
    (built : catalog.registry = .ok registry) :
    ∃ providers, catalog.entries.mapM Entry.provider = .ok providers ∧
      registry = .ofList providers (unknownName .plugin) := by
  obtain ⟨providers, made, shape⟩ := (bind_ok_iff _ _ _).mp built
  cases shape
  exact ⟨providers, made, rfl⟩

theorem owner_shows (registry : Registry .plugin Unit Instance)
    (built : catalog.registry = .ok registry) (name : Name .plugin) (owner : Provider .plugin Unit Instance)
    (owns : registry.ownerOf? name = some owner) :
    ∃ entry, catalog.first? name = some entry ∧ entry.provider = .ok owner := by
  obtain ⟨providers, made, rfl⟩ := catalog.registry_built registry built
  rw [Registry.owner_of_list] at owns
  split at owns
  · cases owns
  · have related := first_provider catalog.entries providers made name
    rw [owns] at related
    cases found : catalog.entries.find? fun entry => entry.shows name with
    | none =>
        rw [found] at related
        cases related
    | some entry =>
        rw [found] at related
        cases related with
        | some same => exact ⟨entry, found, same⟩

theorem registry_obeys (registry : Registry .plugin Unit Instance)
    (built : catalog.registry = .ok registry) (lookup : Lookup) :
    Obeys (registry.plugin lookup) (catalog.Serves lookup) := by
  intro name values state tree found
  obtain ⟨owner, owns, made⟩ := registry.plugin_ok name lookup values state tree found
  obtain ⟨entry, first, provides⟩ := catalog.owner_shows registry built name owner owns
  exact ⟨entry, first, entry.provider_obeys owner provides lookup name values state tree made⟩

def Lists (node : Instance) : Prop :=
  ∃ entry, catalog.entries.filter (fun entry => entry.name = node.provider) = [entry] ∧
    node.info ∈ entry.infos.infos

theorem entry_alone (entry : Entry) (member : entry ∈ catalog.entries) :
    catalog.entries.filter (fun other => other.name = entry.name) = [entry] := by
  have distinct := catalog.distinct
  generalize catalog.entries = entries at member distinct
  induction entries with
  | nil => cases member
  | cons first rest hypothesis =>
      obtain ⟨fresh, others⟩ := List.nodup_cons.mp distinct
      rcases List.mem_cons.mp member with rfl | later
      · have none : rest.filter (fun other => other.name = entry.name) = [] := by
          refine List.filter_eq_nil_iff.mpr fun other inside same => fresh ?_
          exact of_decide_eq_true same ▸ List.mem_map_of_mem inside
        rw [List.filter_cons_of_pos (by simp), none]
      · have apart : first.name ≠ entry.name := fun same => fresh (same ▸ List.mem_map_of_mem later)
        rw [List.filter_cons_of_neg (by simpa using apart), hypothesis later others]

theorem makes_within (entry : Entry) (member : entry ∈ catalog.entries) :
    Kept entry.Makes fun tree => ∀ node, node.Within tree → catalog.Lists node := by
  rintro name values tree ⟨info, found, rfl⟩ nested node within
  cases within with
  | here => exact ⟨entry, catalog.entry_alone entry member, ((InfoSet.by_name_iff _ _ _).mp found).1⟩
  | inside other _ given within => exact nested other given node within

theorem serves_within (lookup : Lookup) :
    Kept (catalog.Serves lookup) fun tree => ∀ node, node.Within tree → catalog.Lists node := by
  rintro name values tree ⟨entry, first, served⟩ nested
  have kept := catalog.makes_within entry (catalog.first_some name entry first).1
  cases served with
  | plain bare _ _ made => exact kept _ values tree made nested
  | declared some phrase written values given _ made =>
      exact kept _ values tree made fun other member =>
        phrase.gives_hold lookup entry.Makes _ kept values given other member

theorem select_sound (registry : Registry .plugin Unit Instance)
    (built : catalog.registry = .ok registry) (lookup : Lookup) (selector : Selector .plugin)
    (tree : Instance) (found : ((registry.select lookup selector).perform ()).1 = .ok tree) :
    (∃ (phrase : Phrase .plugin) (values : List (Value Instance)),
      phrase.print = selector.text.toList ∧ phrase.Gives lookup (catalog.Serves lookup) values ∧
        catalog.Serves lookup selector.name values tree ∧
        ∀ name ∈ selector.names phrase, ∃ entry, catalog.first? name = some entry) ∧
      (∃ entry, catalog.first? selector.name = some entry ∧ tree.provider = entry.name ∧
        entry.infos.byName? (entry.image selector.name).name = some tree.info) ∧
      ∀ node : Instance, node.Within tree → ∃ entry,
        catalog.entries.filter (fun entry => entry.name = node.provider) = [entry] ∧
          node.info ∈ entry.infos.infos := by
  have obeys := catalog.registry_obeys registry built lookup
  obtain ⟨_, _, next⟩ := Action.ok_of_bind _ _ _ _ found
  obtain ⟨values, evaluated, made⟩ := Action.ok_of_bind _ _ _ _ next
  obtain ⟨phrase, written, given⟩ := Selector.evaluate_gives lookup _ _ plugin_separable obeys
    selector _ values evaluated
  have served := obeys _ _ _ _ made
  refine ⟨⟨phrase, values, written, given, served, ?_⟩, ?_, ?_⟩
  · intro name member
    rcases List.mem_cons.mp member with rfl | nested
    · obtain ⟨entry, first, _⟩ := served
      exact ⟨entry, first⟩
    · obtain ⟨_, _, entry, first, _⟩ := phrase.served lookup _ values given name nested
      exact ⟨entry, first⟩
  · obtain ⟨entry, first, served⟩ := served
    refine ⟨entry, first, ?_⟩
    cases served with
    | plain _ _ _ made =>
        obtain ⟨info, listed, rfl⟩ := made
        exact ⟨rfl, listed⟩
    | declared _ _ _ _ _ _ made =>
        obtain ⟨info, listed, rfl⟩ := made
        exact ⟨rfl, listed⟩
  · exact catalog.serves_within lookup _ values tree served
      (phrase.gives_hold lookup _ _ (catalog.serves_within lookup) values given)

end Catalog

end Urls

namespace Catalog

attribute [local instance] UrlLibrary.sample

namespace Walled

open AliasedProvider.Swapped (x)

def outer : Name .plugin := ⟨"outer", by decide⟩

def inner : Name .plugin := ⟨"inner", by decide⟩

def outerInfo : Info .plugin := ⟨⟨"a://o", by rfl⟩, outer⟩

def innerInfo : Info .plugin := ⟨⟨"a://i", by rfl⟩, inner⟩

def aliases : AliasSet .plugin :=
  ⟨_, ⟨[⟨x, .renamed ⟨outer, "(inner)"⟩⟩], rfl⟩⟩

def core : Entry where
  name := ⟨"core", by decide⟩
  url := ⟨"a://w", by rfl⟩
  infos :=
    { infos := [innerInfo, outerInfo]
      ordered := by unfold Ordered.Increasing; decide
      distinctNames := by decide
      distinctUrls := by decide }
  aliases := some aliases

def walled : Catalog where
  entries := [core]
  environment := .empty
  distinct := by decide

def shown : AliasedProvider .plugin Unit Instance where
  aliases := aliases
  infos :=
    { infos := [outerInfo.rename x]
      ordered := by unfold Ordered.Increasing; decide
      distinctNames := by decide
      distinctUrls := by decide }
  inner := core.listed
  unknown := unknownName .plugin

def gathered : Registry .plugin Unit Instance :=
  .ofList [shown.toProvider] (unknownName .plugin)

def phrase : Phrase .plugin :=
  .listed .none (.filled (.last .none (.word (.name inner (by decide))) .none)) .none

def nested : Instance :=
  .made core.name innerInfo []

def tree : Instance :=
  .made core.name outerInfo [.provided nested]

theorem select_tree (lookup : Lookup) :
    ((gathered.select lookup ⟨x, ""⟩).perform ()).1 = .ok tree := by
  have called : gathered.plugin lookup x [] =
      (⟨outer, "(inner)"⟩ : Selector .plugin).evaluate lookup (core.listed.plugin lookup) >>=
        core.listed.plugin lookup outer := by rfl
  unfold Registry.select
  rw [Selector.evaluate_phrase _ _ _ plugin_separable (.blank .none) rfl]
  change ((gathered.plugin lookup x []).perform ()).1 = _
  rw [called, Selector.evaluate_phrase _ _ _ plugin_separable phrase rfl]
  rfl

end Walled

open Walled AliasedProvider.Swapped in
theorem select_walled :
    (walled.registry = .ok gathered ∧
      ((gathered.select (fun _ => none) ⟨x, ""⟩).perform ()).1 = .ok tree) ∧
      core.shows inner = false ∧ nested.Within tree ∧ walled.Lists nested := by
  have built : walled.registry = .ok gathered := by rfl
  have found := select_tree fun _ => none
  have within : nested.Within tree :=
    .inside nested nested tree List.mem_cons_self (.here nested)
  exact ⟨⟨built, found⟩, rfl, within,
    (select_sound walled gathered built _ ⟨x, ""⟩ tree found).2.2 nested within⟩

end Catalog

end PluginNaming
