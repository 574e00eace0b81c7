import PluginNaming.AliasSet
import PluginNaming.Proofs.InfoSet.Correspondence

set_option autoImplicit false

namespace PluginNaming

open Ordered

theorem nodup_filter_map_snoc {α β : Type} (read : α → Option β) (list : List α) (last : α) :
    ((list ++ [last]).filterMap read).Nodup ↔
      (list.filterMap read).Nodup ∧ ∀ value, read last = some value → value ∉ list.filterMap read := by
  rw [List.filterMap_append, List.nodup_append]
  cases found : read last with
  | none => simp [found]
  | some value =>
      simp only [List.filterMap_cons, found, List.filterMap_nil, List.nodup_singleton, true_and,
        List.mem_singleton, forall_eq, Option.some.injEq, forall_eq']
      exact and_congr_right fun _ => ⟨fun apart member => apart value member rfl,
        fun fresh other member same => fresh (same ▸ member)⟩

theorem sorted_filter_map_snoc {α β : Type} [Ord β] (read : α → Option β) (list : List α)
    (last : α) : sorted ((list ++ [last]).filterMap read) =
      (read last).elim (sorted (list.filterMap read))
        (Ordered.insert · (sorted (list.filterMap read))) := by
  cases found : read last with
  | none => simp [found]
  | some value => simp [found, sorted_snoc]

variable [UrlLibrary] {kind : NameKind}

namespace Alias

instance : Std.LawfulEqOrd (Alias kind) where
  compare_self := Std.ReflOrd.compare_self
  eq_of_compare {a b} same := by
    obtain ⟨names, others⟩ := Ordering.then_eq_eq.mp same
    obtain ⟨selectors, urls⟩ := Ordering.then_eq_eq.mp others
    have name := Std.LawfulEqOrd.eq_of_compare names
    have selector := Std.LawfulEqOrd.eq_of_compare selectors
    have url := Std.LawfulEqOrd.eq_of_compare urls
    obtain ⟨firstName, first⟩ := a
    obtain ⟨secondName, second⟩ := b
    cases name
    cases first <;> cases second <;> simp [selector?, url?] at selector url
    · rfl
    · exact selector ▸ rfl
    · rw [selector, Url.eq_of_text _ _ url]

def standsFor (declaration : Alias kind) : Name kind :=
  match declaration.target with
  | .itself => declaration.name
  | .renamed selector => selector.name
  | .published selector _ => selector.name

def claim? (declaration : Alias kind) : Option (Name kind) :=
  match declaration.target with
  | .renamed selector => some selector.name
  | _ => none

def plainName? (declaration : Alias kind) : Option (Name kind) :=
  match declaration.target with
  | .itself => some declaration.name
  | _ => none

def renamedName? (declaration : Alias kind) : Option (Name kind) :=
  declaration.claim?.map fun _ => declaration.name

def info? (declaration : Alias kind) : Option (Info kind) :=
  declaration.url?.map fun url => { url, name := declaration.name }

end Alias

namespace AliasTables

structure Separate (declarations : List (Alias kind)) : Prop where
  names : (declarations.map Alias.name).Nodup
  urls : (declarations.filterMap Alias.url?).Nodup
  claims : (declarations.filterMap Alias.claim?).Nodup

structure Agree (declarations : List (Alias kind)) : Prop extends Separate declarations where
  unclaimed : ∀ name ∈ declarations.filterMap Alias.claim?,
    name ∉ declarations.filterMap Alias.plainName?

structure Recorded (tables : AliasTables kind) (list : List (Alias kind)) : Prop where
  declarations : tables.declarations = sorted list
  targets : tables.targets = .ofEntries (list.map fun d => (d.name, d.standsFor))
  selectors : tables.selectors = .ofEntries (list.filterMap fun d => d.selector?.map (d.name, ·))
  plain : tables.plain = sorted (list.filterMap Alias.plainName?)
  renamed : tables.renamed = sorted (list.filterMap Alias.renamedName?)
  claims : tables.claims = .ofEntries (list.filterMap fun d => d.claim?.map (·, d.name))
  published : tables.published.infos = sorted (list.filterMap Alias.info?)

theorem recorded_unique (left right : AliasTables kind) (list : List (Alias kind))
    (first : Recorded left list) (second : Recorded right list) : left = right := by
  have published := InfoSet.eq_of_infos _ _ (first.published.trans second.published.symm)
  have declared := first.declarations.trans second.declarations.symm
  have targets := first.targets.trans second.targets.symm
  have selectors := first.selectors.trans second.selectors.symm
  have plain := first.plain.trans second.plain.symm
  have renamed := first.renamed.trans second.renamed.symm
  have claims := first.claims.trans second.claims.symm
  cases left
  cases right
  simp_all

structure Fresh (list : List (Alias kind)) (last : Alias kind) : Prop where
  name : last.name ∉ list.map Alias.name
  url : ∀ url, last.url? = some url → url ∉ list.filterMap Alias.url?
  claim : ∀ name, last.claim? = some name → name ∉ list.filterMap Alias.claim?

theorem separate_snoc (list : List (Alias kind)) (last : Alias kind) :
    Separate (list ++ [last]) ↔ Separate list ∧ Fresh list last := by
  have names : ((list ++ [last]).map Alias.name).Nodup ↔
      (list.map Alias.name).Nodup ∧ last.name ∉ list.map Alias.name := by
    simpa using nodup_filter_map_snoc (fun d : Alias kind => some d.name) list last
  have urls := nodup_filter_map_snoc Alias.url? list last
  have claims := nodup_filter_map_snoc Alias.claim? list last
  constructor
  · rintro ⟨first, second, third⟩
    obtain ⟨names, name⟩ := names.mp first
    obtain ⟨urls, url⟩ := urls.mp second
    obtain ⟨claims, claim⟩ := claims.mp third
    exact ⟨⟨names, urls, claims⟩, ⟨name, url, claim⟩⟩
  · rintro ⟨separate, fresh⟩
    exact ⟨names.mpr ⟨separate.names, fresh.name⟩, urls.mpr ⟨separate.urls, fresh.url⟩,
      claims.mpr ⟨separate.claims, fresh.claim⟩⟩

theorem separate_append_left (done rest : List (Alias kind)) (separate : Separate (done ++ rest)) :
    Separate done := by
  obtain ⟨names, urls, claims⟩ := separate
  rw [List.map_append, List.nodup_append] at names
  rw [List.filterMap_append, List.nodup_append] at urls claims
  exact ⟨names.1, urls.1, claims.1⟩

theorem targets_distinct (list : List (Alias kind)) (names : (list.map Alias.name).Nodup) :
    ((list.map fun d => (d.name, d.standsFor)).map Prod.fst).Nodup := by
  rw [List.map_map]
  exact names

theorem claims_distinct (list : List (Alias kind)) (separate : Separate list) :
    ((list.filterMap fun d : Alias kind => d.claim?.map (·, d.name)).map Prod.fst).Nodup := by
  have keys : ((list.filterMap fun d : Alias kind => d.claim?.map (·, d.name)).map Prod.fst) =
      list.filterMap Alias.claim? := by
    rw [List.map_filterMap]
    exact List.filterMap_congr fun d _ => by cases d.claim? <;> rfl
  exact keys ▸ separate.claims

theorem recorded_has (tables : AliasTables kind) (list : List (Alias kind))
    (recorded : Recorded tables list) (names : (list.map Alias.name).Nodup) (name : Name kind) :
    tables.targets.has name = true ↔ name ∈ list.map Alias.name := by
  rw [Table.has, Option.isSome_iff_exists, recorded.targets]
  simp only [Table.find_of_entries _ (targets_distinct list names), List.mem_map, Prod.mk.injEq]
  constructor
  · rintro ⟨target, declaration, member, named, _⟩
    exact ⟨declaration, member, named⟩
  · rintro ⟨declaration, member, named⟩
    exact ⟨_, declaration, member, named, rfl⟩

theorem recorded_claim (tables : AliasTables kind) (list : List (Alias kind))
    (recorded : Recorded tables list) (separate : Separate list) (claimed name : Name kind) :
    tables.claims.find? claimed = some name ↔
      ∃ declaration ∈ list, declaration.claim? = some claimed ∧ declaration.name = name := by
  rw [recorded.claims, Table.find_of_entries _ (claims_distinct list separate), List.mem_filterMap]
  simp

theorem recorded_unclaimed (tables : AliasTables kind) (list : List (Alias kind))
    (recorded : Recorded tables list) (separate : Separate list) (name : Name kind) :
    tables.claims.find? name = none ↔ name ∉ list.filterMap Alias.claim? := by
  rw [Option.eq_none_iff_forall_ne_some, List.mem_filterMap]
  simp only [ne_eq, recorded_claim tables list recorded separate]
  grind

theorem recorded_publishes (tables : AliasTables kind) (list : List (Alias kind))
    (recorded : Recorded tables list) (info : Info kind) :
    info ∈ tables.published.infos ↔
      ∃ declaration ∈ list, declaration.url? = some info.url ∧ declaration.name = info.name := by
  rw [recorded.published, mem_sorted, List.mem_filterMap]
  refine exists_congr fun declaration => and_congr_right fun _ => ?_
  cases placed : declaration.url? with
  | none => simp [Alias.info?, placed]
  | some url =>
      obtain ⟨other, name⟩ := info
      simp [Alias.info?, placed]

theorem published_fresh (tables : AliasTables kind) (list : List (Alias kind))
    (recorded : Recorded tables list) (url : Url) (name : Name kind)
    (freshName : name ∉ list.map Alias.name) :
    url ∉ list.filterMap Alias.url? ↔
      ∃ next, tables.published.add { url, name } = .ok next ∧
        next.infos = Ordered.insert { url, name } tables.published.infos := by
  have urls : url ∈ tables.published.infos.map Info.url ↔ url ∈ list.filterMap Alias.url? := by
    rw [List.mem_map, List.mem_filterMap]
    constructor
    · rintro ⟨info, member, rfl⟩
      obtain ⟨declaration, declared, placed, _⟩ := (recorded_publishes _ _ recorded info).mp member
      exact ⟨declaration, declared, placed⟩
    · rintro ⟨declaration, declared, placed⟩
      exact ⟨{ url, name := declaration.name },
        (recorded_publishes _ _ recorded _).mpr ⟨declaration, declared, placed, rfl⟩, rfl⟩
  have names : name ∉ tables.published.infos.map Info.name := by
    intro member
    obtain ⟨info, inside, rfl⟩ := List.mem_map.mp member
    obtain ⟨declaration, declared, _, named⟩ := (recorded_publishes _ _ recorded info).mp inside
    exact freshName (List.mem_map.mpr ⟨declaration, declared, named⟩)
  rw [← urls]
  constructor
  · intro fresh
    obtain ⟨next, added⟩ := InfoSet.add_succeeds tables.published { url, name } fresh names
    exact ⟨next, added⟩
  · rintro ⟨next, added, _⟩
    exact ((InfoSet.add_ok_iff _ _ _).mp added).1

theorem recorded_snoc (tables next : AliasTables kind) (list : List (Alias kind)) (last : Alias kind)
    (recorded : Recorded tables list)
    (declarations : next.declarations = Ordered.insert last tables.declarations)
    (targets : next.targets = tables.targets.set last.name last.standsFor)
    (selectors : next.selectors = last.selector?.elim tables.selectors (tables.selectors.set last.name))
    (plain : next.plain = last.plainName?.elim tables.plain (Ordered.insert · tables.plain))
    (renamed : next.renamed = last.renamedName?.elim tables.renamed (Ordered.insert · tables.renamed))
    (claims : next.claims = last.claim?.elim tables.claims (tables.claims.set · last.name))
    (published : next.published.infos =
      last.info?.elim tables.published.infos (Ordered.insert · tables.published.infos)) :
    Recorded next (list ++ [last]) := by
  constructor
  · rw [declarations, recorded.declarations, sorted_snoc]
  · rw [targets, recorded.targets, List.map_append, List.map_singleton, Table.of_entries_snoc]
  · rw [selectors, recorded.selectors, List.filterMap_append]
    cases found : last.selector? with
    | none => simp [found]
    | some selector => simp [found, Table.of_entries_snoc]
  · rw [plain, recorded.plain, sorted_filter_map_snoc]
  · rw [renamed, recorded.renamed, sorted_filter_map_snoc]
  · rw [claims, recorded.claims, List.filterMap_append]
    cases found : last.claim? with
    | none => simp [found]
    | some claimed => simp [found, Table.of_entries_snoc]
  · rw [published, recorded.published, sorted_filter_map_snoc]

theorem add_fresh (tables : AliasTables kind) (list : List (Alias kind)) (last : Alias kind)
    (recorded : Recorded tables list) (separate : Separate list) (fresh : Fresh list last) :
    ∃ next, tables.add last = .ok next ∧ Recorded next (list ++ [last]) := by
  obtain ⟨name, target⟩ := last
  have undeclared : ¬ tables.targets.has name = true := by
    rw [recorded_has tables list recorded separate.names]
    exact fresh.name
  unfold add
  rw [if_neg undeclared]
  cases target with
  | itself => exact ⟨_, rfl, recorded_snoc _ _ _ _ recorded rfl rfl rfl rfl rfl rfl rfl⟩
  | renamed selector =>
      have unclaimed := (recorded_unclaimed tables list recorded separate selector.name).mpr
        (fresh.claim selector.name rfl)
      simp only [unclaimed]
      exact ⟨_, rfl, recorded_snoc _ _ _ _ recorded rfl rfl rfl rfl rfl rfl rfl⟩
  | published selector url =>
      obtain ⟨published, added, content⟩ :=
        (published_fresh tables list recorded url name fresh.name).mp (fresh.url url rfl)
      simp only [added]
      exact ⟨_, rfl, recorded_snoc _ _ _ _ recorded rfl rfl rfl rfl rfl rfl content⟩

theorem fresh_of_add (tables next : AliasTables kind) (list : List (Alias kind)) (last : Alias kind)
    (recorded : Recorded tables list) (separate : Separate list)
    (added : tables.add last = .ok next) : Fresh list last := by
  obtain ⟨name, target⟩ := last
  unfold add at added
  by_cases declared : tables.targets.has name = true
  · rw [if_pos declared] at added
    cases added
  · rw [if_neg declared] at added
    rw [recorded_has tables list recorded separate.names] at declared
    cases target with
    | itself => exact ⟨declared, by simp [Alias.url?], by simp [Alias.claim?]⟩
    | renamed selector =>
        refine ⟨declared, by simp [Alias.url?], fun claimed same => ?_⟩
        cases same
        rw [← recorded_unclaimed tables list recorded separate]
        cases found : tables.claims.find? selector.name with
        | some first => simp [found] at added
        | none => rfl
    | published selector url =>
        obtain ⟨published, grown, _⟩ := (bind_ok_iff _ _ _).mp added
        refine ⟨declared, fun other placed => ?_, by simp [Alias.claim?]⟩
        cases placed
        exact (published_fresh tables list recorded url name declared).mpr
          ⟨published, grown, ((InfoSet.add_ok_iff _ _ _).mp grown).2.2⟩

theorem fold_recorded (list : List (Alias kind)) (tables : AliasTables kind)
    (folded : list.foldlM add empty = .ok tables) : Recorded tables list ∧ Separate list := by
  have begun : Recorded (empty : AliasTables kind) [] ∧ Separate ([] : List (Alias kind)) :=
    ⟨⟨rfl, rfl, rfl, rfl, rfl, rfl, rfl⟩, ⟨List.nodup_nil, List.nodup_nil, List.nodup_nil⟩⟩
  refine fold_keeps (fun done tables => Recorded tables done ∧ Separate done) add ?_ list empty
    tables begun folded
  intro done last state next held added
  obtain ⟨recorded, separate⟩ := held
  have fresh := fresh_of_add state next done last recorded separate added
  obtain ⟨other, again, kept⟩ := add_fresh state done last recorded separate fresh
  have same : other = next := Except.ok.inj (again.symm.trans added)
  exact ⟨same ▸ kept, (separate_snoc done last).mpr ⟨separate, fresh⟩⟩

theorem fold_succeeds_of_separate (list : List (Alias kind)) (separate : Separate list) :
    ∃ tables, list.foldlM add empty = .ok tables ∧ Recorded tables list := by
  refine fold_succeeds (fun done tables => Recorded tables done) add list ?_ empty
    ⟨rfl, rfl, rfl, rfl, rfl, rfl, rfl⟩
  intro done last rest state whole recorded
  have front : Separate (done ++ [last]) :=
    separate_append_left _ rest (by simpa [whole] using separate)
  obtain ⟨earlier, fresh⟩ := (separate_snoc done last).mp front
  exact add_fresh state done last recorded earlier fresh

theorem conflict_none_iff (tables : AliasTables kind) (list : List (Alias kind))
    (recorded : Recorded tables list) (separate : Separate list) :
    tables.conflict? = none ↔ ∀ name ∈ list.filterMap Alias.claim?,
      name ∉ list.filterMap Alias.plainName? := by
  have distinct := increasing_nodup _ (Table.of_entries_increasing
    (list.filterMap fun d : Alias kind => d.claim?.map (·, d.name)))
  unfold conflict?
  rw [List.find?_eq_none]
  simp only [List.contains_iff_mem, recorded.plain, mem_sorted]
  constructor
  · intro clear name claimed
    obtain ⟨declaration, declared, claims⟩ := List.mem_filterMap.mp claimed
    have entry : (name, declaration.name) ∈ tables.claims := by
      rw [← Table.find_iff_mem _ (recorded.claims ▸ distinct)]
      exact (recorded_claim tables list recorded separate name _).mpr ⟨_, declared, claims, rfl⟩
    exact clear _ entry
  · intro unclaimed claim member
    rw [← Prod.eta claim, ← Table.find_iff_mem _ (recorded.claims ▸ distinct),
      recorded_claim tables list recorded separate] at member
    obtain ⟨declaration, declared, claims, _⟩ := member
    exact unclaimed _ (List.mem_filterMap.mpr ⟨declaration, declared, claims⟩)

theorem assemble_ok_iff (list : List (Alias kind)) (tables : AliasTables kind) :
    assemble list = .ok tables ↔ Agree list ∧ Recorded tables list := by
  unfold assemble
  rw [bind_ok_iff]
  constructor
  · rintro ⟨state, folded, finished⟩
    obtain ⟨recorded, separate⟩ := fold_recorded list state folded
    cases conflict : state.conflict? with
    | some claim => simp [conflict] at finished
    | none =>
        simp only [conflict] at finished
        cases finished
        exact ⟨⟨separate, (conflict_none_iff _ list recorded separate).mp conflict⟩, recorded⟩
  · rintro ⟨agree, recorded⟩
    obtain ⟨state, folded, reached⟩ := fold_succeeds_of_separate list agree.toSeparate
    have same := recorded_unique state tables list reached recorded
    subst same
    have clear := (conflict_none_iff state list recorded agree.toSeparate).mpr agree.unclaimed
    exact ⟨state, folded, by simp [clear, pure, Except.pure]⟩

end AliasTables

end PluginNaming
