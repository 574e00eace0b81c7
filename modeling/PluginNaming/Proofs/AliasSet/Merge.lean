import PluginNaming.Catalog
import PluginNaming.Proofs.AliasSet.Agreement

set_option autoImplicit false

namespace PluginNaming

variable [UrlLibrary] {kind : NameKind}

namespace AliasSet

open AliasTables

def Activates (set : AliasSet kind) (provided : InfoSet kind) (info : Info kind) : Prop :=
  ∃ d ∈ set.declarations, d.name = info.name ∧ ∃ selector,
    d.target = .published selector info.url ∧ ∃ source ∈ provided.infos, source.name = selector.name

def Untaken (set : AliasSet kind) (provided : InfoSet kind) (url : Url) : Prop :=
  ∀ active, set.Activates provided active → active.url ≠ url

inductive Shows (set : AliasSet kind) (provided : InfoSet kind) : Info kind → Prop where
  | published (info : Info kind) (active : set.Activates provided info) : Shows set provided info
  | renamed (d : Alias kind) (declared : d ∈ set.declarations) (selector : Selector kind)
      (target : d.target = .renamed selector) (source : Info kind) (given : source ∈ provided.infos)
      (named : source.name = selector.name) (untaken : set.Untaken provided source.url) :
      Shows set provided (source.rename d.name)
  | plain (d : Alias kind) (declared : d ∈ set.declarations) (target : d.target = .itself)
      (source : Info kind) (given : source ∈ provided.infos) (named : source.name = d.name)
      (untaken : set.Untaken provided source.url) : Shows set provided source

def Mentions (set : AliasSet kind) (name : Name kind) : Prop :=
  ∃ d ∈ set.declarations, d.standsFor = name

def mergeAlong (set : AliasSet kind) (provided : InfoSet kind) (renamed : List (Name kind))
    (published : List (Info kind)) : Except Fault (InfoSet kind) := do
  let plain := provided.keep fun info => set.plain.contains info.name
  let shown ← renamed.foldlM (set.mergeRenamed provided) plain
  published.foldlM (set.mergePublished provided) shown

section Merge

variable (set : AliasSet kind) (provided : InfoSet kind)

def Takes (name : Name kind) (info : Info kind) : Prop :=
  info.name = name ∧ ∃ selector, set.selector? name = some selector ∧
    info.rename selector.name ∈ provided.infos

theorem renamed_selector (name : Name kind) (member : name ∈ set.renamed) :
    ∃ selector, set.selector? name = some selector := by
  obtain ⟨d, declared, named, selector, target⟩ := (set.renamed_iff name).mp member
  exact ⟨selector, (set.selector_iff name selector).mpr
    ⟨d, declared, named, by simp [Alias.selector?, target]⟩⟩

theorem renamed_target (name : Name kind) (selector : Selector kind) (member : name ∈ set.renamed)
    (selects : set.selector? name = some selector) :
    ∃ d ∈ set.declarations, d.name = name ∧ d.target = .renamed selector := by
  obtain ⟨d, declared, named, other, target⟩ := (set.renamed_iff name).mp member
  obtain ⟨e, also, same, selected⟩ := (set.selector_iff name selector).mp selects
  have equal := set.same_declaration e d also declared (same.trans named.symm)
  refine ⟨d, declared, named, ?_⟩
  simpa [equal, Alias.selector?, target] using selected

-- Two aliases without url never have the same target, so they never take the same info.
theorem same_claim (first second : Name kind) (a b : Selector kind) (left : first ∈ set.renamed)
    (right : second ∈ set.renamed) (selectsA : set.selector? first = some a)
    (selectsB : set.selector? second = some b) (same : a.name = b.name) : first = second := by
  obtain ⟨d, declared, named, target⟩ := set.renamed_target first a left selectsA
  obtain ⟨e, also, named', target'⟩ := set.renamed_target second b right selectsB
  have claims := recorded_claim set.toAliasTables _ set.recorded.2 set.recorded.1.toSeparate a.name
  have one := (claims first).mpr ⟨d, declared, by simp [Alias.claim?, target], named⟩
  have two := (claims second).mpr ⟨e, also, by simp [Alias.claim?, target', same], named'⟩
  exact Option.some.inj (one.symm.trans two)

theorem claim_not_plain (name : Name kind) (selector : Selector kind) (member : name ∈ set.renamed)
    (selects : set.selector? name = some selector) : selector.name ∉ set.plain := by
  obtain ⟨d, declared, _, target⟩ := set.renamed_target name selector member selects
  intro plain
  obtain ⟨e, also, named, itself⟩ := (set.plain_iff selector.name).mp plain
  refine set.recorded.1.unclaimed selector.name (List.mem_filterMap.mpr ⟨d, declared, ?_⟩)
    (List.mem_filterMap.mpr ⟨e, also, ?_⟩)
  · simp [Alias.claim?, target]
  · simp [Alias.plainName?, itself, named]

theorem renamed_not_plain (name : Name kind) (member : name ∈ set.renamed) : name ∉ set.plain := by
  obtain ⟨selector, selects⟩ := set.renamed_selector name member
  intro plain
  rw [set.tabulated.apart name plain] at selects
  cases selects

theorem takes_iff (name : Name kind) (selector : Selector kind) (source : Info kind)
    (selects : set.selector? name = some selector) (given : source ∈ provided.infos)
    (named : source.name = selector.name) (info : Info kind) :
    set.Takes provided name info ↔ info = source.rename name := by
  constructor
  · rintro ⟨same, other, selects', given'⟩
    have equal : other = selector := Option.some.inj (selects'.symm.trans selects)
    have origin := InfoSet.same_name provided _ _ given' given (by simp [Info.rename, equal, named])
    cases info
    simp_all [Info.rename, ← origin]
  · rintro rfl
    have back : (source.rename name).rename selector.name = source := by simp [Info.rename, ← named]
    exact ⟨rfl, selector, selects, back ▸ given⟩

theorem takes_nothing (name : Name kind) (selector : Selector kind)
    (selects : set.selector? name = some selector) (absent : provided.byName? selector.name = none)
    (info : Info kind) : ¬ set.Takes provided name info := by
  rintro ⟨_, other, selects', given⟩
  have same : other = selector := Option.some.inj (selects'.symm.trans selects)
  have hit := (InfoSet.by_name_iff provided selector.name _).mpr ⟨same ▸ given, rfl⟩
  rw [absent] at hit
  cases hit

def ShownAfter (done : List (Name kind)) (info : Info kind) : Prop :=
  (info ∈ provided.infos ∧ info.name ∈ set.plain) ∨
    ∃ name ∈ done, set.Takes provided name info

-- The url of an info that is taken over was shown neither for a plain name nor for another alias.
theorem taken_alone (done : List (Name kind)) (name : Name kind) (selector : Selector kind)
    (source : Info kind) (within : ∀ earlier ∈ done, earlier ∈ set.renamed)
    (member : name ∈ set.renamed) (selects : set.selector? name = some selector)
    (given : source ∈ provided.infos) (named : source.name = selector.name) (other : Info kind)
    (shown : set.ShownAfter provided done other) (same : other.url = source.url) :
    other = source.rename name := by
  rcases shown with ⟨original, plain⟩ | ⟨earlier, before, named', selector', selects', given'⟩
  · have origin := InfoSet.same_url provided other source original given same
    exact absurd (named ▸ origin ▸ plain) (set.claim_not_plain name selector member selects)
  · have origin := InfoSet.same_url provided _ source given' given same
    have target : selector'.name = selector.name := (congrArg Info.name origin).trans named
    have equal := set.same_claim earlier name selector' selector (within earlier before) member
      selects' selects target
    exact (set.takes_iff provided name selector source selects given named other).mp
      (equal ▸ ⟨named', selector', selects', given'⟩)

theorem merge_renamed_step (done : List (Name kind)) (name : Name kind) (state : InfoSet kind)
    (within : ∀ earlier ∈ done, earlier ∈ set.renamed) (member : name ∈ set.renamed)
    (held : ∀ info, info ∈ state.infos ↔ set.ShownAfter provided done info) :
    ∃ next, set.mergeRenamed provided state name = .ok next ∧
      ∀ info, info ∈ next.infos ↔ set.ShownAfter provided (done ++ [name]) info := by
  obtain ⟨selector, selects⟩ := set.renamed_selector name member
  have longer : ∀ info, set.ShownAfter provided (done ++ [name]) info ↔
      info ∈ state.infos ∨ set.Takes provided name info := by
    intro info
    simp only [held, ShownAfter, List.mem_append, List.mem_singleton, or_and_right, exists_or,
      exists_eq_left, or_assoc]
  unfold mergeRenamed
  simp only [selects]
  cases found : provided.byName? selector.name with
  | none =>
      refine ⟨state, rfl, fun info => ?_⟩
      simp [longer, set.takes_nothing provided name selector selects found]
  | some source =>
      obtain ⟨given, named⟩ := (InfoSet.by_name_iff provided selector.name source).mp found
      have alone : ∀ other ∈ state.infos, other.url = source.url → other = source.rename name :=
        fun other inside => set.taken_alone provided done name selector source within member selects
          given named other ((held other).mp inside)
      have takes := set.takes_iff provided name selector source selects given named
      have free : ∀ other ∈ state.infos, other.name = name → other.url = source.url := by
        intro other inside same
        rcases (held other).mp inside with ⟨_, plain⟩ | ⟨earlier, _, taken⟩
        · exact absurd (same ▸ plain) (set.renamed_not_plain name member)
        · have equal : earlier = name := taken.1.symm.trans same
          exact (takes other).mp (equal ▸ taken) ▸ rfl
      obtain ⟨next, put, content⟩ := InfoSet.put_succeeds state (source.rename name) free
      refine ⟨next, put, fun info => ?_⟩
      rw [content, longer, takes, or_comm]
      constructor
      · exact Or.imp_left And.left
      · rintro (inside | fresh)
        · by_cases same : info.url = source.url
          · exact .inr (alone info inside same)
          · exact .inl ⟨inside, same⟩
        · exact .inr fresh

def Active (info : Info kind) : Prop :=
  ∃ selector, set.selector? info.name = some selector ∧ provided.hasName selector.name = true

def LaidOver (shown done : List (Info kind)) (info : Info kind) : Prop :=
  (info ∈ done ∧ set.Active provided info) ∨
    (info ∈ shown ∧ ∀ other ∈ done, set.Active provided other → other.url ≠ info.url)

theorem laid_over_idle (shown done : List (Info kind)) (item info : Info kind)
    (idle : ¬ set.Active provided item) :
    set.LaidOver provided shown (done ++ [item]) info ↔ set.LaidOver provided shown done info := by
  simp only [LaidOver, List.mem_append, List.mem_singleton]
  constructor
  · rintro (⟨before | rfl, acting⟩ | ⟨original, untaken⟩)
    · exact .inl ⟨before, acting⟩
    · exact absurd acting idle
    · exact .inr ⟨original, fun other before => untaken other (.inl before)⟩
  · rintro (⟨before, acting⟩ | ⟨original, untaken⟩)
    · exact .inl ⟨.inl before, acting⟩
    · refine .inr ⟨original, ?_⟩
      rintro other (before | rfl) acting
      · exact untaken other before acting
      · exact absurd acting idle

theorem laid_over_active (shown done : List (Info kind)) (item info : Info kind)
    (within : ∀ earlier ∈ done, earlier ∈ set.published.infos) (member : item ∈ set.published.infos)
    (acts : set.Active provided item) :
    set.LaidOver provided shown (done ++ [item]) info ↔
      info = item ∨ (set.LaidOver provided shown done info ∧ info.url ≠ item.url) := by
  simp only [LaidOver, List.mem_append, List.mem_singleton]
  constructor
  · rintro (⟨before | same, acting⟩ | ⟨original, untaken⟩)
    · by_cases same : info.url = item.url
      · exact .inl (InfoSet.same_url set.published info item (within info before) member same)
      · exact .inr ⟨.inl ⟨before, acting⟩, same⟩
    · exact .inl same
    · exact .inr ⟨.inr ⟨original, fun other before => untaken other (.inl before)⟩,
        Ne.symm (untaken item (.inr rfl) acts)⟩
  · rintro (rfl | ⟨⟨before, acting⟩ | ⟨original, untaken⟩, different⟩)
    · exact .inl ⟨.inr rfl, acts⟩
    · exact .inl ⟨.inl before, acting⟩
    · refine .inr ⟨original, ?_⟩
      rintro other (before | rfl) acting
      · exact untaken other before acting
      · exact Ne.symm different

theorem published_selector (item : Info kind) (member : item ∈ set.published.infos) :
    ∃ selector, set.selector? item.name = some selector := by
  have published := (InfoSet.has_name_iff set.published item.name).mpr ⟨item, member, rfl⟩
  exact Option.isSome_iff_exists.mp ((set.tabulated.aliases item.name).mpr (.inr published))

theorem merge_published_step (shown done : List (Info kind)) (item : Info kind)
    (state : InfoSet kind) (within : ∀ earlier ∈ done, earlier ∈ set.published.infos)
    (member : item ∈ set.published.infos)
    (apart : ∀ info ∈ shown, set.published.hasName info.name = false)
    (held : ∀ info, info ∈ state.infos ↔ set.LaidOver provided shown done info) :
    ∃ next, set.mergePublished provided state item = .ok next ∧
      ∀ info, info ∈ next.infos ↔ set.LaidOver provided shown (done ++ [item]) info := by
  obtain ⟨selector, selects⟩ := set.published_selector item member
  have active : set.Active provided item ↔ provided.hasName selector.name = true := by
    simp [Active, selects]
  unfold mergePublished
  simp only [selects]
  by_cases given : provided.hasName selector.name = true
  · rw [if_pos given]
    have free : ∀ other ∈ state.infos, other.name = item.name → other.url = item.url := by
      intro other inside same
      rcases (held other).mp inside with ⟨before, _⟩ | ⟨original, _⟩
      · exact congrArg Info.url
          (InfoSet.same_name set.published other item (within other before) member same)
      · have absent := apart other original
        rw [same, ← Bool.not_eq_true, InfoSet.has_name_iff] at absent
        exact absurd ⟨item, member, rfl⟩ absent
    obtain ⟨next, put, content⟩ := InfoSet.put_succeeds state item free
    refine ⟨next, put, fun info => ?_⟩
    rw [content, held, set.laid_over_active provided shown done item info within member
      (active.mpr given)]
  · rw [if_neg given]
    refine ⟨state, rfl, fun info => ?_⟩
    rw [held, set.laid_over_idle provided shown done item info (mt active.mp given)]

theorem activates_iff (info : Info kind) :
    set.Activates provided info ↔ info ∈ set.published.infos ∧ set.Active provided info := by
  constructor
  · rintro ⟨d, declared, named, selector, target, source, given, same⟩
    have selects : set.selector? info.name = some selector :=
      (set.selector_iff _ _).mpr ⟨d, declared, named, by simp [Alias.selector?, target]⟩
    exact ⟨(set.published_iff info).mpr ⟨d, declared, named, selector, target⟩, selector, selects,
      (InfoSet.has_name_iff provided _).mpr ⟨source, given, same⟩⟩
  · rintro ⟨member, selector, selects, present⟩
    obtain ⟨d, declared, named, other, target⟩ := (set.published_iff info).mp member
    obtain ⟨e, also, named', selected⟩ := (set.selector_iff _ _).mp selects
    have equal := set.same_declaration e d also declared (named'.trans named.symm)
    have same : other = selector := by simpa [equal, Alias.selector?, target] using selected
    exact ⟨d, declared, named, selector, same ▸ target, (InfoSet.has_name_iff provided _).mp present⟩

theorem shows_iff (info : Info kind) :
    set.Shows provided info ↔ set.Activates provided info ∨
      (set.ShownAfter provided set.renamed info ∧ set.Untaken provided info.url) := by
  constructor
  · intro shows
    cases shows with
    | published _ active => exact .inl active
    | renamed d declared selector target source given named untaken =>
        have selects : set.selector? d.name = some selector :=
          (set.selector_iff _ _).mpr ⟨d, declared, rfl, by simp [Alias.selector?, target]⟩
        have member := (set.renamed_iff d.name).mpr ⟨d, declared, rfl, selector, target⟩
        have takes := (set.takes_iff provided d.name selector source selects given named _).mpr rfl
        exact .inr ⟨.inr ⟨d.name, member, takes⟩, untaken⟩
    | plain d declared target _ given named untaken =>
        exact .inr ⟨.inl ⟨given, (set.plain_iff _).mpr ⟨d, declared, named.symm, target⟩⟩, untaken⟩
  · rintro (active | ⟨⟨given, plain⟩ | ⟨name, member, named, selector, selects, given⟩, untaken⟩)
    · exact .published info active
    · obtain ⟨d, declared, named, target⟩ := (set.plain_iff _).mp plain
      exact .plain d declared target info given named.symm untaken
    · obtain ⟨d, declared, named', target⟩ := set.renamed_target name selector member selects
      have back : (info.rename selector.name).rename d.name = info := by
        simp [Info.rename, named', ← named]
      exact back ▸ .renamed d declared selector target _ given rfl untaken

theorem shown_not_published (info : Info kind) (shown : set.ShownAfter provided set.renamed info) :
    set.published.hasName info.name = false := by
  rcases shown with ⟨_, plain⟩ | ⟨name, member, named, _⟩
  · have absent := set.tabulated.apart _ plain
    rw [← Option.not_isSome_iff_eq_none, set.tabulated.aliases] at absent
    exact Bool.not_eq_true _ ▸ fun published => absent (.inr published)
  · exact named ▸ set.tabulated.exclusive name member

theorem merge_along_shows (renamed : List (Name kind)) (published : List (Info kind))
    (sameRenamed : renamed.Perm set.renamed) (samePublished : published.Perm set.published.infos) :
    ∃ merged, set.mergeAlong provided renamed published = .ok merged ∧
      ∀ info, info ∈ merged.infos ↔ set.Shows provided info := by
  obtain ⟨shown, first, content⟩ := fold_succeeds
    (fun done (state : InfoSet kind) => ∀ info, info ∈ state.infos ↔ set.ShownAfter provided done info)
    (set.mergeRenamed provided) renamed
    (fun done name rest state whole held => set.merge_renamed_step provided done name state
      (fun earlier before => sameRenamed.mem_iff.mp (by simp [whole, before]))
      (sameRenamed.mem_iff.mp (by simp [whole])) held)
    (provided.keep fun info => set.plain.contains info.name)
    (fun info => by simp [InfoSet.keep, ShownAfter])
  have complete : ∀ info, info ∈ shown.infos ↔ set.ShownAfter provided set.renamed info := by
    intro info
    simp only [content, ShownAfter, sameRenamed.mem_iff]
  obtain ⟨merged, second, final⟩ := fold_succeeds
    (fun done (state : InfoSet kind) =>
      ∀ info, info ∈ state.infos ↔ set.LaidOver provided shown.infos done info)
    (set.mergePublished provided) published
    (fun done item rest state whole held => set.merge_published_step provided shown.infos done item
      state (fun earlier before => samePublished.mem_iff.mp (by simp [whole, before]))
      (samePublished.mem_iff.mp (by simp [whole]))
      (fun info member => set.shown_not_published provided info ((complete info).mp member)) held)
    shown (fun info => by simp [LaidOver])
  refine ⟨merged, ?_, fun info => ?_⟩
  · unfold mergeAlong
    exact (bind_ok_iff _ _ _).mpr ⟨shown, first, second⟩
  · rw [final, shows_iff, LaidOver, complete]
    simp only [Untaken, activates_iff, samePublished.mem_iff, and_imp]

theorem activates_mentioned (other : InfoSet kind)
    (same : ∀ info, set.Mentions info.name → (info ∈ other.infos ↔ info ∈ provided.infos))
    (info : Info kind) : set.Activates other info ↔ set.Activates provided info := by
  refine exists_congr fun d => and_congr_right fun declared => and_congr_right fun _ =>
    exists_congr fun selector => and_congr_right fun target => exists_congr fun source => ?_
  refine and_congr_left fun named => same source ⟨d, declared, ?_⟩
  simp [Alias.standsFor, target, named]

theorem shows_mentioned (other : InfoSet kind)
    (same : ∀ info, set.Mentions info.name → (info ∈ other.infos ↔ info ∈ provided.infos))
    (info : Info kind) (shows : set.Shows other info) : set.Shows provided info := by
  have untaken : ∀ url, set.Untaken other url → set.Untaken provided url := fun url free active acts =>
    free active ((set.activates_mentioned provided other same active).mpr acts)
  cases shows with
  | published _ acts => exact .published _ ((set.activates_mentioned provided other same _).mp acts)
  | renamed d declared selector target source given named free =>
      have mentioned : set.Mentions source.name :=
        ⟨d, declared, by simp [Alias.standsFor, target, named]⟩
      exact .renamed d declared selector target source ((same _ mentioned).mp given) named
        (untaken _ free)
  | plain d declared target source given named free =>
      have mentioned : set.Mentions info.name :=
        ⟨d, declared, by simp [Alias.standsFor, target, named]⟩
      exact .plain d declared target _ ((same _ mentioned).mp given) named (untaken _ free)

theorem merge_shows :
    ∃ merged, set.merge provided = .ok merged ∧
      ∀ info, info ∈ merged.infos ↔ set.Shows provided info :=
  set.merge_along_shows provided set.renamed set.published.infos (.refl _) (.refl _)

theorem shown_declared (info : Info kind) (shows : set.Shows provided info) :
    ∃ d ∈ set.declarations, d.name = info.name ∧ provided.hasName d.standsFor = true := by
  simp only [InfoSet.has_name_iff]
  cases shows with
  | published _ active =>
      obtain ⟨d, declared, named, selector, target, source, given, same⟩ := active
      exact ⟨d, declared, named, source, given, by simp [Alias.standsFor, target, same]⟩
  | renamed d declared selector target source given named _ =>
      exact ⟨d, declared, rfl, source, given, by simp [Alias.standsFor, target, named]⟩
  | plain d declared target _ given named _ =>
      exact ⟨d, declared, named.symm, _, given, by simp [Alias.standsFor, target, named]⟩

end Merge

theorem wrap_succeeds {σ τ : Type} (set : AliasSet kind) (inner : Provider kind σ τ)
    (unknown : Unknown kind) : ∃ provider, AliasedProvider.wrap set inner unknown = .ok provider := by
  obtain ⟨merged, shown, _⟩ := set.merge_shows inner.infos
  exact ⟨_, (bind_ok_iff _ _ _).mpr ⟨merged, shown, rfl⟩⟩

end AliasSet

namespace Catalog

theorem entry_provider (entry : Entry) : ∃ provider, entry.provider = .ok provider := by
  unfold Entry.provider
  cases entry.aliases with
  | none => exact ⟨_, rfl⟩
  | some aliases =>
      obtain ⟨wrapped, succeeds⟩ := aliases.wrap_succeeds entry.listed (unknownName .plugin)
      exact ⟨_, (bind_ok_iff _ _ _).mpr ⟨wrapped, succeeds, rfl⟩⟩

theorem registry_succeeds (catalog : Catalog) :
    ∃ providers registry, catalog.providers = .ok providers ∧ catalog.registry = .ok registry := by
  obtain ⟨providers, made⟩ := map_succeeds Entry.provider catalog.entries
    fun entry _ => entry_provider entry
  exact ⟨providers, _, made, (bind_ok_iff _ _ _).mpr ⟨providers, made, rfl⟩⟩

end Catalog

namespace AliasSet

theorem merge_exact (set : AliasSet kind) (provided : InfoSet kind) :
    (∃ merged, set.merge provided = .ok merged ∧
      (∀ info, info ∈ merged.infos ↔ set.Shows provided info) ∧
      (∀ renamed published, renamed.Perm set.renamed → published.Perm set.published.infos →
        set.mergeAlong provided renamed published = .ok merged) ∧
      ∀ other : InfoSet kind,
        (∀ info, set.Mentions info.name → (info ∈ other.infos ↔ info ∈ provided.infos)) →
          set.merge other = .ok merged) ∧
      (∀ (σ τ : Type) (inner : Provider kind σ τ) (unknown : Unknown kind),
        ∃ provider, AliasedProvider.wrap set inner unknown = .ok provider) ∧
      ∀ catalog : Catalog, ∃ providers registry,
        catalog.providers = .ok providers ∧ catalog.registry = .ok registry := by
  obtain ⟨merged, succeeds, content⟩ := set.merge_shows provided
  refine ⟨⟨merged, succeeds, content, ?_, ?_⟩, fun _ _ => set.wrap_succeeds, Catalog.registry_succeeds⟩
  · intro renamed published sameRenamed samePublished
    obtain ⟨again, also, same⟩ := set.merge_along_shows provided renamed published sameRenamed samePublished
    rw [also, InfoSet.infos_unique again merged fun info => (same info).trans (content info).symm]
  · intro other mentioned
    obtain ⟨again, also, same⟩ := set.merge_shows other
    have equal := InfoSet.infos_unique again merged fun info => by
      rw [same, content]
      exact ⟨set.shows_mentioned provided other mentioned info,
        set.shows_mentioned other provided (fun info named => (mentioned info named).symm) info⟩
    rw [also, equal]

end AliasSet

end PluginNaming
