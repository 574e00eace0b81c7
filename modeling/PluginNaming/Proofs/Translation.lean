import PluginNaming.Proofs.InfoSet.Correspondence
import PluginNaming.Proofs.Url
import PluginNaming.Translation

set_option autoImplicit false

namespace PluginNaming

open Ordered

section Urls

variable [UrlLibrary] {kind : NameKind}

namespace InfoSet

theorem mem_restrict (set other : InfoSet kind) (info : Info kind) :
    info ∈ (set.restrict other).infos ↔
      info ∈ set.infos ∧ ∃ source ∈ other.infos, source.url = info.url := by
  rw [restrict, keep, List.mem_filter, has_url_iff]

def substitute (renames : InfoSet kind) (info : Info kind) : Info kind :=
  match renames.byUrl? info.url with
  | some renamed => info.rename renamed.name
  | none => info

theorem substitute_url (renames : InfoSet kind) (info : Info kind) :
    (renames.substitute info).url = info.url := by
  unfold substitute
  split <;> rfl

theorem substituted_urls (set renames : InfoSet kind) :
    (set.infos.map renames.substitute).map Info.url = set.infos.map Info.url := by
  rw [List.map_map]
  exact List.map_congr_left fun info _ => renames.substitute_url info

-- All names change at once, so it is only after the change that they have to differ.
theorem substituted_distinct (set renames : InfoSet kind) :
    Distinct (set.infos.map renames.substitute) ↔
      (set.infos.map fun info => (renames.substitute info).name).Nodup := by
  have names : (set.infos.map renames.substitute).map Info.name =
      set.infos.map fun info => (renames.substitute info).name := List.map_map
  constructor
  · exact fun distinct => names ▸ distinct.names
  · exact fun apart => ⟨names ▸ apart, substituted_urls set renames ▸ (infos_distinct set).urls⟩

theorem rename_succeeds_iff (set renames : InfoSet kind) :
    (∃ next, set.rename renames = .ok next) ↔
      (set.infos.map fun info => (renames.substitute info).name).Nodup := by
  rw [← substituted_distinct]
  constructor
  · rintro ⟨next, renamed⟩
    exact ((of_list_ok_iff _ next).mp renamed).1
  · intro distinct
    obtain ⟨next, built, _⟩ := of_list_succeeds _ distinct
    exact ⟨next, built⟩

theorem mem_rename (set renames next : InfoSet kind) (renamed : set.rename renames = .ok next)
    (info : Info kind) :
    info ∈ next.infos ↔ ∃ source ∈ set.infos, renames.substitute source = info := by
  rw [((of_list_ok_iff (set.infos.map renames.substitute) next).mp renamed).2 info, List.mem_map]

def spared (view provided : InfoSet kind) : InfoSet kind :=
  provided.keep fun info => !(view.hasUrl info.url || view.hasName info.name)

theorem mem_spared (view provided : InfoSet kind) (info : Info kind) :
    info ∈ (view.spared provided).infos ↔ info ∈ provided.infos ∧
      ∀ shown ∈ view.infos, shown.url ≠ info.url ∧ shown.name ≠ info.name := by
  rw [spared, keep, List.mem_filter]
  refine and_congr_right fun _ => ?_
  rw [Bool.not_eq_true', Bool.or_eq_false_iff, ← Bool.not_eq_true, ← Bool.not_eq_true, has_url_iff,
    has_name_iff]
  simp only [not_exists, not_and, ← forall_and]

theorem spared_distinct (view provided : InfoSet kind) :
    Distinct ((view.spared provided).infos ++ view.infos) := by
  refine (distinct_append _ _).mpr ⟨infos_distinct _, infos_distinct view, ?_⟩
  intro info kept shown inside
  have apart := ((mem_spared view provided info).mp kept).2 shown inside
  exact ⟨apart.1.symm, apart.2.symm⟩

end InfoSet

namespace Translation

theorem matching_keys (view provided : InfoSet kind) :
    (matching view provided).keys.Sublist (view.infos.map Info.name) := by
  unfold matching Table.keys
  induction view.infos with
  | nil => exact .slnil
  | cons info rest hypothesis =>
      cases found : provided.byUrl? info.url with
      | none => simpa [found] using hypothesis.cons info.name
      | some source => simpa [found] using hypothesis.cons_cons info.name

theorem matching_iff (view provided : InfoSet kind) (name target : Name kind) :
    (matching view provided).find? name = some target ↔
      ∃ info ∈ view.infos, info.name = name ∧
        ∃ source ∈ provided.infos, source.url = info.url ∧ source.name = target := by
  have distinct : (matching view provided).keys.Nodup :=
    (InfoSet.infos_distinct view).names.sublist (matching_keys view provided)
  rw [Table.find_iff_mem _ distinct]
  simp only [matching, List.mem_filterMap, Option.map_eq_some_iff, InfoSet.by_url_iff, Prod.mk.injEq]
  constructor
  · rintro ⟨info, member, source, ⟨given, placed⟩, named, same⟩
    exact ⟨info, member, named, source, given, placed, same⟩
  · rintro ⟨info, member, named, source, given, placed, same⟩
    exact ⟨info, member, source, ⟨given, placed⟩, named, same⟩

theorem matching_restrict (view provided : InfoSet kind) :
    matching (view.restrict provided) provided = matching view provided := by
  unfold matching InfoSet.restrict InfoSet.keep
  rw [List.filterMap_filter]
  refine List.filterMap_congr fun info _ => ?_
  cases found : provided.byUrl? info.url with
  | none => simp
  | some source =>
      obtain ⟨given, placed⟩ := (InfoSet.by_url_iff provided info.url source).mp found
      have kept : provided.hasUrl info.url = true :=
        (InfoSet.has_url_iff _ _).mpr ⟨source, given, placed⟩
      simp [kept]

theorem name_ok_iff (translation : Translation kind) (name target : Name kind) :
    translation.name name = .ok target ↔ translation.names.find? name = some target := by
  unfold Translation.name
  cases translation.names.find? name <;> simp

theorem name_fails_iff (translation : Translation kind) (name : Name kind) :
    (∃ fault, translation.name name = .error fault) ↔
      ¬ ∃ target, translation.name name = .ok target := by
  cases translation.name name <;> simp

theorem filtered_name_iff (view provided : InfoSet kind) (unknown : Unknown kind)
    (name target : Name kind) :
    (filtered view provided unknown).name name = .ok target ↔
      ∃ info ∈ view.infos, info.name = name ∧
        ∃ source ∈ provided.infos, source.url = info.url ∧ source.name = target := by
  rw [name_ok_iff, filtered, matching_restrict, matching_iff]

def Links (view provided : InfoSet kind) (shown known : Name kind) : Prop :=
  ∃ url, ⟨url, shown⟩ ∈ view.infos ∧ ⟨url, known⟩ ∈ provided.infos

structure Exact (translation : Translation kind) (view provided : InfoSet kind) : Prop where
  translated : ∀ name target, translation.name name = .ok target ↔ Links view provided name target
  injective : ∀ name other target, translation.name name = .ok target →
    translation.name other = .ok target → name = other
  unlinked : ∀ name, (∀ target, ¬ Links view provided name target) →
    translation.name name = .error (translation.unknown name)

theorem links_injective (view provided : InfoSet kind) (name other target : Name kind)
    (first : Links view provided name target) (second : Links view provided other target) :
    name = other := by
  obtain ⟨url, shown, known⟩ := first
  obtain ⟨url', shown', known'⟩ := second
  have source := InfoSet.same_name provided ⟨url, target⟩ ⟨url', target⟩ known known' rfl
  cases source
  exact congrArg Info.name (InfoSet.same_url view ⟨url, name⟩ ⟨url, other⟩ shown shown' rfl)

theorem exact_of_matching (translation : Translation kind) (view provided : InfoSet kind)
    (names : translation.names = matching view provided) : Exact translation view provided := by
  have translated : ∀ name target,
      translation.name name = .ok target ↔ Links view provided name target := by
    intro name target
    rw [name_ok_iff, names, matching_iff]
    constructor
    · rintro ⟨info, shown, rfl, source, given, placed, rfl⟩
      exact ⟨info.url, shown, placed ▸ given⟩
    · rintro ⟨url, shown, known⟩
      exact ⟨⟨url, name⟩, shown, rfl, ⟨url, target⟩, known, rfl, rfl⟩
  refine ⟨translated, ?_, ?_⟩
  · intro name other target first second
    exact links_injective view provided name other target ((translated name target).mp first)
      ((translated other target).mp second)
  · intro name unlinked
    cases found : translation.names.find? name with
    | none => rw [Translation.name, found]
    | some target =>
        exact absurd ((translated name target).mp ((name_ok_iff _ _ _).mpr found)) (unlinked target)

theorem Exact.known_iff (translation : Translation kind) (view provided : InfoSet kind)
    (exact : Exact translation view provided) (info : Info kind) (shown : info ∈ view.infos) :
    (∃ target, translation.name info.name = .ok target) ↔
      ∃ source ∈ provided.infos, source.url = info.url := by
  simp only [exact.translated]
  constructor
  · rintro ⟨target, url, also, known⟩
    have placed : url = info.url :=
      congrArg Info.url (InfoSet.same_name view ⟨url, info.name⟩ info also shown rfl)
    exact ⟨⟨url, target⟩, known, placed⟩
  · rintro ⟨source, given, placed⟩
    exact ⟨source.name, info.url, shown, placed ▸ given⟩

section Sorts

variable (view provided : InfoSet kind) (unknown : Unknown kind)

theorem renamed_ok_iff (translation : Translation kind) :
    renamed view provided unknown = .ok translation ↔
      ∃ infos, provided.rename view = .ok infos ∧
        translation = { infos, names := matching infos provided, unknown } := by
  unfold renamed
  rw [bind_ok_iff]
  refine exists_congr fun infos => and_congr_right fun _ => ?_
  exact ⟨fun made => (Except.ok.inj made).symm, fun same => congrArg Except.ok same.symm⟩

theorem renamed_succeeds_iff :
    (∃ translation, renamed view provided unknown = .ok translation) ↔
      (provided.infos.map fun source => (view.substitute source).name).Nodup := by
  rw [← InfoSet.rename_succeeds_iff]
  simp only [renamed_ok_iff]
  constructor
  · rintro ⟨translation, infos, built, _⟩
    exact ⟨infos, built⟩
  · rintro ⟨infos, built⟩
    exact ⟨_, infos, built, rfl⟩

theorem renamed_shows (translation : Translation kind)
    (made : renamed view provided unknown = .ok translation) (info : Info kind) :
    info ∈ translation.infos.infos ↔ ∃ source ∈ provided.infos, view.substitute source = info := by
  obtain ⟨infos, built, rfl⟩ := (renamed_ok_iff view provided unknown translation).mp made
  exact InfoSet.mem_rename provided view infos built info

theorem renamed_exact (translation : Translation kind)
    (made : renamed view provided unknown = .ok translation) :
    Exact translation translation.infos provided := by
  obtain ⟨infos, _, rfl⟩ := (renamed_ok_iff view provided unknown translation).mp made
  exact exact_of_matching _ infos provided rfl

theorem renamed_urls (translation : Translation kind)
    (made : renamed view provided unknown = .ok translation) (url : Url) :
    (∃ info ∈ translation.infos.infos, info.url = url) ↔
      ∃ source ∈ provided.infos, source.url = url := by
  simp only [renamed_shows view provided unknown translation made]
  constructor
  · rintro ⟨_, ⟨source, given, rfl⟩, placed⟩
    exact ⟨source, given, (view.substitute_url source).symm.trans placed⟩
  · rintro ⟨source, given, placed⟩
    exact ⟨_, ⟨source, given, rfl⟩, (view.substitute_url source).trans placed⟩

theorem merged_made : ∃ infos, (∀ info, info ∈ infos.infos ↔
      info ∈ (view.spared provided).infos ∨ info ∈ view.infos) ∧
    merged view provided unknown = .ok { infos, names := matching infos provided, unknown } := by
  have distinct := InfoSet.spared_distinct view provided
  obtain ⟨infos, built, content⟩ := InfoSet.of_list_succeeds _ distinct
  refine ⟨infos, fun info => ?_, (bind_ok_iff _ _ _).mpr ⟨infos, built, rfl⟩⟩
  rw [content, mem_sorted, List.mem_append]

theorem sorts_exact :
    (Exact (direct view provided unknown) view provided ∧
      ∀ info, info ∈ (direct view provided unknown).infos.infos ↔
        info ∈ provided.infos ∧ ∃ shown ∈ view.infos, shown.url = info.url) ∧
    (Exact (filtered view provided unknown) (filtered view provided unknown).infos provided ∧
      (∀ info, info ∈ (filtered view provided unknown).infos.infos ↔
        info ∈ view.infos ∧ ∃ source ∈ provided.infos, source.url = info.url) ∧
      ∀ name, (filtered view provided unknown).name name = (direct view provided unknown).name name) ∧
    (((∃ translation, renamed view provided unknown = .ok translation) ↔
        (provided.infos.map fun source => (view.substitute source).name).Nodup) ∧
      ∀ translation, renamed view provided unknown = .ok translation →
        Exact translation translation.infos provided ∧
        (∀ info, info ∈ translation.infos.infos ↔
          ∃ source ∈ provided.infos, view.substitute source = info) ∧
        (∀ url, (∃ info ∈ translation.infos.infos, info.url = url) ↔
          ∃ source ∈ provided.infos, source.url = url) ∧
        ∀ info ∈ translation.infos.infos, ∃ target, translation.name info.name = .ok target) ∧
    ∃ translation, merged view provided unknown = .ok translation ∧
      Exact translation translation.infos provided ∧
      (∀ info, info ∈ translation.infos.infos ↔ info ∈ view.infos ∨ info ∈ provided.infos ∧
        ∀ shown ∈ view.infos, shown.url ≠ info.url ∧ shown.name ≠ info.name) ∧
      ∀ info ∈ translation.infos.infos, (∃ fault, translation.name info.name = .error fault) ↔
        ∀ source ∈ provided.infos, source.url ≠ info.url := by
  refine ⟨⟨?_, ?_⟩, ⟨?_, ?_, ?_⟩, ⟨?_, ?_⟩, ?_⟩
  · exact exact_of_matching _ _ _ rfl
  · exact fun info => InfoSet.mem_restrict provided view info
  · exact exact_of_matching _ _ _ rfl
  · exact fun info => InfoSet.mem_restrict view provided info
  · intro name
    simp only [Translation.name, filtered, direct, matching_restrict]
  · exact renamed_succeeds_iff view provided unknown
  · intro translation made
    refine ⟨renamed_exact view provided unknown translation made,
      renamed_shows view provided unknown translation made,
      renamed_urls view provided unknown translation made, ?_⟩
    intro info shown
    refine ((renamed_exact view provided unknown translation made).known_iff _ _ _ info shown).mpr ?_
    exact (renamed_urls view provided unknown translation made info.url).mp ⟨info, shown, rfl⟩
  · obtain ⟨infos, content, made⟩ := merged_made view provided unknown
    have exact :=
      exact_of_matching { infos, names := matching infos provided, unknown } infos provided rfl
    refine ⟨_, made, exact, fun info => ?_, fun info shown => ?_⟩
    · rw [content, InfoSet.mem_spared, or_comm]
    · have known := not_congr (exact.known_iff _ _ _ info shown)
      rw [name_fails_iff, known]
      simp only [not_exists, not_and]

end Sorts

end Translation

end Urls

namespace Translation

attribute [local instance] UrlLibrary.sample

-- Renames that swap two names: one after the other they would meet, but they are done at once.
theorem renamed_swapped :
    let a : Name .plugin := ⟨"a", by decide⟩
    let b : Name .plugin := ⟨"b", by decide⟩
    let provided : InfoSet .plugin :=
      ⟨[⟨⟨"a://a", by rfl⟩, a⟩, ⟨⟨"a://b", by rfl⟩, b⟩], by unfold Increasing; decide, by decide,
        by decide⟩
    let view : InfoSet .plugin :=
      ⟨[⟨⟨"a://b", by rfl⟩, a⟩, ⟨⟨"a://a", by rfl⟩, b⟩], by unfold Increasing; decide, by decide,
        by decide⟩
    ∃ translation, renamed view provided (unknownName .plugin) = .ok translation ∧
      translation.name b = .ok a ∧ translation.name a = .ok b := by
  intro a b provided view
  obtain ⟨succeeds, exact⟩ := (sorts_exact view provided (unknownName .plugin)).2.2.1
  obtain ⟨translation, made⟩ := succeeds.mpr (by decide)
  obtain ⟨exact, shows, _⟩ := exact translation made
  have first : ⟨⟨"a://a", by rfl⟩, b⟩ ∈ translation.infos.infos :=
    (shows _).mpr ⟨⟨⟨"a://a", by rfl⟩, a⟩, by decide, by decide⟩
  have second : ⟨⟨"a://b", by rfl⟩, a⟩ ∈ translation.infos.infos :=
    (shows _).mpr ⟨⟨⟨"a://b", by rfl⟩, b⟩, by decide, by decide⟩
  refine ⟨translation, made, (exact.translated b a).mpr ⟨_, first, ?_⟩,
    (exact.translated a b).mpr ⟨_, second, ?_⟩⟩
  · decide
  · decide

end Translation

end PluginNaming
