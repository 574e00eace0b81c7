import PluginNaming.Proofs.AliasSet.Recorded

set_option autoImplicit false

namespace PluginNaming

open Ordered

variable [UrlLibrary] {kind : NameKind}

namespace AliasTables

theorem agree_perm (left right : List (Alias kind)) (perm : left.Perm right) (agree : Agree left) :
    Agree right := by
  refine ⟨⟨(perm.map _).nodup_iff.mp agree.names, (perm.filterMap _).nodup_iff.mp agree.urls,
    (perm.filterMap _).nodup_iff.mp agree.claims⟩, ?_⟩
  intro name claimed plain
  exact agree.unclaimed name ((perm.filterMap _).mem_iff.mpr claimed)
    ((perm.filterMap _).mem_iff.mpr plain)

theorem entries_distinct {α : Type} (read : Alias kind → Option α) (list : List (Alias kind))
    (names : (list.map Alias.name).Nodup) :
    ((list.filterMap fun d => (read d).map (d.name, ·)).map Prod.fst).Nodup := by
  refine List.Nodup.sublist ?_ names
  induction list with
  | nil => simp
  | cons first rest hypothesis =>
      have inner := hypothesis (List.nodup_cons.mp names).2
      cases found : read first with
      | none => simpa [found] using inner.cons first.name
      | some value => simpa [found] using inner.cons_cons first.name

theorem recorded_perm (tables : AliasTables kind) (left right : List (Alias kind))
    (perm : left.Perm right) (separate : Separate left) (recorded : Recorded tables left) :
    Recorded tables right := by
  have names := (perm.map Alias.name).nodup_iff.mp separate.names
  have other : Separate right := ⟨names, (perm.filterMap _).nodup_iff.mp separate.urls,
    (perm.filterMap _).nodup_iff.mp separate.claims⟩
  constructor
  · exact recorded.declarations.trans (sorted_congr _ _ fun _ => perm.mem_iff)
  · exact recorded.targets.trans (Table.of_entries_congr _ _ (targets_distinct left separate.names)
      (targets_distinct right names) fun _ => (perm.map _).mem_iff)
  · exact recorded.selectors.trans (Table.of_entries_congr _ _
      (entries_distinct Alias.selector? left separate.names)
      (entries_distinct Alias.selector? right names) fun _ => (perm.filterMap _).mem_iff)
  · exact recorded.plain.trans (sorted_congr _ _ fun _ => (perm.filterMap _).mem_iff)
  · exact recorded.renamed.trans (sorted_congr _ _ fun _ => (perm.filterMap _).mem_iff)
  · exact recorded.claims.trans (Table.of_entries_congr _ _ (claims_distinct left separate)
      (claims_distinct right other) fun _ => (perm.filterMap _).mem_iff)
  · exact recorded.published.trans (sorted_congr _ _ fun _ => (perm.filterMap _).mem_iff)

theorem infos_of_agree (list : List (Alias kind)) (separate : Separate list) :
    InfoSet.Distinct (list.filterMap Alias.info?) := by
  constructor
  · have named : (list.filterMap fun d : Alias kind => d.url?.map (d.name, ·)).map Prod.fst =
        (list.filterMap Alias.info?).map Info.name := by
      rw [List.map_filterMap, List.map_filterMap]
      exact List.filterMap_congr fun d _ => by simp [Alias.info?, Function.comp_def]
    exact named ▸ entries_distinct Alias.url? list separate.names
  · have placed : (list.filterMap Alias.info?).map Info.url = list.filterMap Alias.url? := by
      rw [List.map_filterMap]
      exact List.filterMap_congr fun d _ => by simp [Alias.info?, Function.comp_def]
    exact placed ▸ separate.urls

end AliasTables

namespace AliasSet

open AliasTables

theorem sorted_perm (list : List (Alias kind)) (names : (list.map Alias.name).Nodup) :
    (sorted list).Perm list :=
  (List.perm_ext_iff_of_nodup (sorted_nodup list) names.of_map).mpr fun item => mem_sorted item list

-- What was assembled from some list might as well have been assembled from the sorted one.
theorem recorded (set : AliasSet kind) :
    Agree set.declarations ∧ Recorded set.toAliasTables set.declarations := by
  obtain ⟨list, assembled⟩ := set.assembled
  obtain ⟨agree, recorded⟩ := (assemble_ok_iff list set.toAliasTables).mp assembled
  have perm := (sorted_perm list agree.names).symm
  have sorted := recorded_perm _ _ _ perm agree.toSeparate recorded
  rw [← recorded.declarations] at perm sorted
  exact ⟨agree_perm _ _ perm agree, sorted⟩

theorem eq_of_tables (left right : AliasSet kind) (same : left.toAliasTables = right.toAliasTables) :
    left = right := by
  cases left
  cases right
  cases same
  rfl

theorem eq_of_declarations (left right : AliasSet kind)
    (same : left.declarations = right.declarations) : left = right :=
  eq_of_tables left right (recorded_unique _ _ _ left.recorded.2 (same ▸ right.recorded.2))

theorem of_list_ok_iff (list : List (Alias kind)) (set : AliasSet kind) :
    ofList list = .ok set ↔ Agree list ∧ Recorded set.toAliasTables list := by
  rw [← assemble_ok_iff]
  unfold ofList
  split
  · rename_i tables assembled
    constructor
    · rintro ⟨⟩
      exact assembled
    · intro again
      exact congrArg Except.ok (eq_of_tables _ _ (Except.ok.inj (assembled.symm.trans again)))
  · rename_i fault assembled
    simp [assembled]

theorem of_list_ok (list : List (Alias kind)) (agree : Agree list) :
    ∃ set, ofList list = .ok set := by
  obtain ⟨tables, folded, records⟩ := fold_succeeds_of_separate list agree.toSeparate
  have assembled := (assemble_ok_iff list tables).mpr ⟨agree, records⟩
  exact ⟨{ tables with assembled := ⟨list, assembled⟩ }, (of_list_ok_iff _ _).mpr ⟨agree, records⟩⟩

theorem of_list_perm (left right : List (Alias kind)) (set : AliasSet kind) (perm : left.Perm right)
    (built : ofList left = .ok set) : ofList right = .ok set := by
  obtain ⟨agree, records⟩ := (of_list_ok_iff left set).mp built
  exact (of_list_ok_iff right set).mpr
    ⟨agree_perm _ _ perm agree, recorded_perm _ _ _ perm agree.toSeparate records⟩

section Tables

variable (set : AliasSet kind)

theorem same_declaration (a b : Alias kind) (left : a ∈ set.declarations)
    (right : b ∈ set.declarations) (same : a.name = b.name) : a = b :=
  List.inj_on_of_nodup_map set.recorded.1.names left right same

theorem target_iff (name target : Name kind) :
    set.target? name = some target ↔ ∃ d ∈ set.declarations, d.name = name ∧ d.standsFor = target := by
  rw [target?, set.recorded.2.targets,
    Table.find_of_entries _ (targets_distinct _ set.recorded.1.names)]
  simp

theorem selector_iff (name : Name kind) (selector : Selector kind) :
    set.selector? name = some selector ↔
      ∃ d ∈ set.declarations, d.name = name ∧ d.selector? = some selector := by
  rw [selector?, set.recorded.2.selectors,
    Table.find_of_entries _ (entries_distinct Alias.selector? _ set.recorded.1.names)]
  simp only [List.mem_filterMap, Option.map_eq_some_iff, Prod.mk.injEq]
  grind

theorem plain_iff (name : Name kind) :
    name ∈ set.plain ↔ ∃ d ∈ set.declarations, d.name = name ∧ d.target = .itself := by
  rw [set.recorded.2.plain, mem_sorted, List.mem_filterMap]
  refine exists_congr fun d => and_congr_right fun _ => ?_
  cases target : d.target <;> simp [Alias.plainName?, target]

theorem renamed_iff (name : Name kind) :
    name ∈ set.renamed ↔
      ∃ d ∈ set.declarations, d.name = name ∧ ∃ selector, d.target = .renamed selector := by
  rw [set.recorded.2.renamed, mem_sorted, List.mem_filterMap]
  refine exists_congr fun d => and_congr_right fun _ => ?_
  cases target : d.target <;> simp [Alias.renamedName?, Alias.claim?, target]

theorem published_iff (info : Info kind) :
    info ∈ set.published.infos ↔ ∃ d ∈ set.declarations, d.name = info.name ∧
      ∃ selector, d.target = .published selector info.url := by
  rw [recorded_publishes _ _ set.recorded.2]
  refine exists_congr fun d => and_congr_right fun _ => ?_
  cases target : d.target <;> simp [Alias.url?, target, and_comm]

theorem has_published_iff (name : Name kind) :
    set.published.hasName name = true ↔
      ∃ d ∈ set.declarations, d.name = name ∧ ∃ selector url, d.target = .published selector url := by
  rw [InfoSet.has_name_iff]
  constructor
  · rintro ⟨info, member, rfl⟩
    obtain ⟨d, declared, named, selector, target⟩ := (set.published_iff info).mp member
    exact ⟨d, declared, named, selector, info.url, target⟩
  · rintro ⟨d, declared, rfl, selector, url, target⟩
    exact ⟨{ url, name := d.name }, (set.published_iff _).mpr ⟨d, declared, rfl, selector, target⟩, rfl⟩

theorem alias_iff (name : Name kind) :
    (set.selector? name).isSome = true ↔
      ∃ d ∈ set.declarations, d.name = name ∧ d.target ≠ .itself := by
  rw [Option.isSome_iff_exists]
  simp only [selector_iff]
  constructor
  · rintro ⟨selector, d, declared, named, selects⟩
    refine ⟨d, declared, named, fun target => ?_⟩
    simp [Alias.selector?, target] at selects
  · rintro ⟨d, declared, named, target⟩
    cases found : d.target with
    | itself => exact absurd found target
    | renamed selector => exact ⟨selector, d, declared, named, by simp [Alias.selector?, found]⟩
    | published selector url => exact ⟨selector, d, declared, named, by simp [Alias.selector?, found]⟩

end Tables

structure Tabulated (set : AliasSet kind) : Prop where
  ofPlain : ∀ d ∈ set.declarations, d.selector? = none → set.target? d.name = some d.name
  ofAlias : ∀ d ∈ set.declarations, ∀ selector, d.selector? = some selector →
    set.target? d.name = some selector.name
  ofNone : ∀ name, name ∉ set.declarations.map Alias.name → set.target? name = none
  selectors : ∀ name selector, set.selector? name = some selector ↔
    ∃ d ∈ set.declarations, d.name = name ∧ d.selector? = some selector
  plain : ∀ name, name ∈ set.plain ↔
    ∃ d ∈ set.declarations, d.name = name ∧ d.selector? = none
  declared : ∀ name, name ∈ set.declarations.map Alias.name ↔
    name ∈ set.plain ∨ (set.selector? name).isSome = true
  apart : ∀ name ∈ set.plain, set.selector? name = none
  aliases : ∀ name, (set.selector? name).isSome = true ↔
    name ∈ set.renamed ∨ set.published.hasName name = true
  exclusive : ∀ name ∈ set.renamed, set.published.hasName name = false
  published : ∀ info, info ∈ set.published.infos ↔
    ∃ d ∈ set.declarations, d.name = info.name ∧ d.url? = some info.url

theorem plain_selector (d : Alias kind) : d.selector? = none ↔ d.target = .itself := by
  cases target : d.target <;> simp [Alias.selector?, target]

theorem tabulated (set : AliasSet kind) : Tabulated set where
  ofPlain d declared plain := by
    rw [target_iff]
    have target := (plain_selector d).mp plain
    exact ⟨d, declared, rfl, by simp [Alias.standsFor, target]⟩
  ofAlias d declared selector selects := by
    rw [target_iff]
    refine ⟨d, declared, rfl, ?_⟩
    cases target : d.target <;> simp_all [Alias.standsFor, Alias.selector?]
  ofNone name undeclared := by
    rw [Option.eq_none_iff_forall_ne_some]
    intro target found
    obtain ⟨d, declared, named, _⟩ := (set.target_iff name target).mp found
    exact undeclared (List.mem_map.mpr ⟨d, declared, named⟩)
  selectors := set.selector_iff
  plain name := by simp only [plain_iff, plain_selector]
  declared name := by
    rw [List.mem_map, plain_iff, alias_iff]
    grind
  apart name plain := by
    obtain ⟨d, declared, named, target⟩ := (set.plain_iff name).mp plain
    rw [← Option.not_isSome_iff_eq_none, alias_iff]
    rintro ⟨other, member, same, different⟩
    exact different (set.same_declaration other d member declared (same.trans named.symm) ▸ target)
  aliases name := by
    rw [alias_iff, renamed_iff, has_published_iff]
    constructor
    · rintro ⟨d, declared, named, different⟩
      cases target : d.target with
      | itself => exact absurd target different
      | renamed selector => exact .inl ⟨d, declared, named, selector, target⟩
      | published selector url => exact .inr ⟨d, declared, named, selector, url, target⟩
    · rintro (⟨d, declared, named, _, target⟩ | ⟨d, declared, named, _, _, target⟩)
      · exact ⟨d, declared, named, by simp [target]⟩
      · exact ⟨d, declared, named, by simp [target]⟩
  exclusive name renamed := by
    obtain ⟨d, declared, named, selector, target⟩ := (set.renamed_iff name).mp renamed
    rw [← Bool.not_eq_true, has_published_iff]
    rintro ⟨other, member, same, _, _, published⟩
    have equal := set.same_declaration other d member declared (same.trans named.symm)
    rw [equal, target] at published
    cases published
  published info := by
    rw [published_iff]
    refine exists_congr fun d => and_congr_right fun _ => and_congr_right fun _ => ?_
    cases target : d.target <;> simp [Alias.url?, target]

theorem set_elements_built (set : AliasSet kind) (declarations : List (Alias kind)) :
    set.setElements declarations = ofList (sorted declarations) := by
  unfold setElements
  by_cases same : sorted declarations = set.declarations
  · rw [if_pos same, same]
    exact ((of_list_ok_iff _ _).mpr set.recorded).symm
  · rw [if_neg same]

theorem of_list_exact (list : List (Alias kind)) :
    ((∃ set, ofList list = .ok set) ↔ Agree list) ∧
      (∀ set other, ofList list = .ok set → list.Perm other → ofList other = .ok set) ∧
      (∀ set, ofList list = .ok set → set.declarations = sorted list ∧
        InfoSet.ofList (list.filterMap Alias.info?) = .ok set.published) ∧
      (∀ set : AliasSet kind, Tabulated set ∧ set.setElements list = ofList (sorted list)) ∧
      ∀ left right : AliasSet kind, (left == right) = true → left = right := by
  refine ⟨⟨?_, of_list_ok list⟩, ?_, ?_, ?_, ?_⟩
  · rintro ⟨set, built⟩
    exact ((of_list_ok_iff list set).mp built).1
  · exact fun set other built perm => of_list_perm list other set perm built
  · intro set built
    obtain ⟨agree, records⟩ := (of_list_ok_iff list set).mp built
    refine ⟨records.declarations, (InfoSet.of_list_ok_iff _ _).mpr ⟨?_, ?_⟩⟩
    · exact infos_of_agree list agree.toSeparate
    · exact fun info => by rw [records.published, mem_sorted]
  · exact fun set => ⟨set.tabulated, set.set_elements_built list⟩
  · exact fun left right same => eq_of_declarations left right (eq_of_beq same)

end AliasSet

end PluginNaming
