import PluginNaming.Proofs.AliasSet.Agreement

set_option autoImplicit false

namespace PluginNaming

open Ordered

variable [UrlLibrary] {kind : NameKind}

namespace AliasTables

theorem agree_sublist (part list : List (Alias kind)) (within : part.Sublist list)
    (agree : Agree list) : Agree part where
  names := agree.names.sublist (within.map _)
  urls := agree.urls.sublist (within.filterMap _)
  claims := agree.claims.sublist (within.filterMap _)
  unclaimed name claimed plain :=
    agree.unclaimed name ((within.filterMap _).subset claimed) ((within.filterMap _).subset plain)

section Picked

def picks (list : List (Alias kind)) (test : Alias kind → Bool) (name : Name kind) : Bool :=
  list.any fun declaration => test declaration && declaration.name = name

theorem picks_iff (list : List (Alias kind)) (test : Alias kind → Bool) (name : Name kind) :
    picks list test name = true ↔ ∃ d ∈ list, test d = true ∧ d.name = name := by
  simp [picks]

variable {α : Type} (list : List (Alias kind)) (names : (list.map Alias.name).Nodup)
  (test : Alias kind → Bool)

include names

theorem mem_picked (read : Alias kind → Option α) (owner : α → Name kind)
    (owned : ∀ d item, read d = some item → owner item = d.name) (item : α) :
    item ∈ (list.filter test).filterMap read ↔
      item ∈ list.filterMap read ∧ picks list test (owner item) = true := by
  simp only [List.mem_filterMap, List.mem_filter, picks_iff]
  constructor
  · rintro ⟨d, ⟨member, passes⟩, reads⟩
    exact ⟨⟨d, member, reads⟩, d, member, passes, (owned d item reads).symm⟩
  · rintro ⟨⟨d, member, reads⟩, other, inside, passes, named⟩
    have same : other = d :=
      List.inj_on_of_nodup_map names inside member (named.trans (owned d item reads))
    exact ⟨d, ⟨member, same ▸ passes⟩, reads⟩

theorem sorted_picked [Ord α] [Std.TransOrd α] [Std.LawfulEqOrd α] (read : Alias kind → Option α)
    (owner : α → Name kind) (owned : ∀ d item, read d = some item → owner item = d.name) :
    sorted ((list.filter test).filterMap read) =
      (sorted (list.filterMap read)).filter fun item => picks list test (owner item) := by
  refine increasing_unique _ _ (sorted_increasing _) ((sorted_increasing _).filter _) fun item => ?_
  rw [mem_sorted, List.mem_filter, mem_sorted, mem_picked list names test read owner owned]

theorem table_picked {β : Type} [Ord α] [Std.TransOrd α] [Std.LawfulEqOrd α]
    (read : Alias kind → Option (α × β)) (owner : α × β → Name kind)
    (owned : ∀ d entry, read d = some entry → owner entry = d.name)
    (distinct : ((list.filterMap read).map Prod.fst).Nodup) :
    Table.ofEntries ((list.filter test).filterMap read) =
      List.filter (fun entry => picks list test (owner entry)) (Table.ofEntries (list.filterMap read)) := by
  have within : ((list.filter test).filterMap read).Sublist (list.filterMap read) :=
    (List.filter_sublist).filterMap read
  have ordered : ∀ entries : List (α × β),
      (Table.ofEntries entries).Pairwise fun a b => compare a.1 b.1 = .lt :=
    fun entries => List.pairwise_map.mp (Table.of_entries_increasing entries)
  refine ordered_unique Prod.fst _ _ (ordered _) ((ordered _).filter _) fun entry => ?_
  rw [Table.mem_of_entries _ (distinct.sublist (within.map _)), List.mem_filter,
    Table.mem_of_entries _ distinct, mem_picked list names test read owner owned]

end Picked

end AliasTables

namespace AliasSet

open AliasTables

structure Restriction (set : AliasSet kind) (test : Alias kind → Bool) (part : AliasSet kind) :
    Prop where
  declarations : part.declarations = set.declarations.filter test
  targets : part.targets =
    List.filter (fun entry => picks set.declarations test entry.1) set.targets
  selectors : part.selectors =
    List.filter (fun entry => picks set.declarations test entry.1) set.selectors
  plain : part.plain = set.plain.filter (picks set.declarations test)
  renamed : part.renamed = set.renamed.filter (picks set.declarations test)
  claims : part.claims = List.filter (fun entry => picks set.declarations test entry.2) set.claims
  published : part.published = set.published.keep fun info => picks set.declarations test info.name

theorem declarations_increasing (set : AliasSet kind) : Increasing set.declarations := by
  rw [set.recorded.2.declarations]
  exact sorted_increasing _

theorem sorted_filter (set : AliasSet kind) (test : Alias kind → Bool) :
    sorted (set.declarations.filter test) = set.declarations.filter test :=
  increasing_unique _ _ (sorted_increasing _) (set.declarations_increasing.filter test) fun d =>
    mem_sorted d _

theorem restriction_of_declarations (set part : AliasSet kind) (test : Alias kind → Bool)
    (declarations : part.declarations = set.declarations.filter test) : Restriction set test part := by
  obtain ⟨agree, whole⟩ := set.recorded
  have recorded := part.recorded.2
  rw [declarations] at recorded
  have names := agree.names
  refine ⟨declarations, ?_, ?_, ?_, ?_, ?_, InfoSet.eq_of_infos _ _ ?_⟩
  · have shape : ∀ list : List (Alias kind), list.map (fun d => (d.name, d.standsFor)) =
        list.filterMap (some ∘ fun d => (d.name, d.standsFor)) :=
      fun list => (congrFun List.filterMap_eq_map list).symm
    rw [recorded.targets, whole.targets, shape, shape]
    refine table_picked _ names test _ Prod.fst (fun d entry found => ?_) ?_
    · cases found
      rfl
    · rw [← shape]
      exact targets_distinct _ names
  · rw [recorded.selectors, whole.selectors]
    refine table_picked _ names test _ Prod.fst (fun d entry found => ?_)
      (entries_distinct Alias.selector? _ names)
    obtain ⟨selector, _, rfl⟩ := Option.map_eq_some_iff.mp found
    rfl
  · rw [recorded.plain, whole.plain]
    refine sorted_picked _ names test _ id fun d name found => ?_
    cases target : d.target <;> simp_all [Alias.plainName?]
  · rw [recorded.renamed, whole.renamed]
    refine sorted_picked _ names test _ id fun d name found => ?_
    obtain ⟨_, _, rfl⟩ := Option.map_eq_some_iff.mp found
    rfl
  · rw [recorded.claims, whole.claims]
    refine table_picked _ names test _ Prod.snd (fun d entry found => ?_)
      (claims_distinct _ agree.toSeparate)
    obtain ⟨claimed, _, rfl⟩ := Option.map_eq_some_iff.mp found
    rfl
  · have infos := sorted_picked _ names test Alias.info? Info.name fun d info found => by
      obtain ⟨url, _, rfl⟩ := Option.map_eq_some_iff.mp found
      rfl
    rw [← recorded.published, ← whole.published] at infos
    exact infos

theorem keep_restricts (set : AliasSet kind) (test : Alias kind → Bool) :
    ∃ part, set.keep test = .ok part ∧ Restriction set test part := by
  have within : (set.declarations.filter test).Sublist set.declarations := List.filter_sublist
  obtain ⟨part, built⟩ := of_list_ok _ (agree_sublist _ _ within set.recorded.1)
  have declarations := ((of_list_ok_iff _ part).mp built).2.declarations
  rw [set.sorted_filter test] at declarations
  refine ⟨part, ?_, restriction_of_declarations set part test declarations⟩
  rw [keep, set_elements_built, set.sorted_filter test, built]

-- Declarations of one set are told apart by their names, so it is by these that they are ordered.
theorem names_apart (limit : Name kind) (a b : Alias kind) (below : compare a.name limit = .lt)
    (above : compare b.name limit ≠ .lt) : compare a b = .lt := by
  have onward : (compare limit b.name).isLE = true := by
    rw [← Std.OrientedCmp.isGE_iff_isLE, Ordering.isGE_iff_ne_lt]
    exact above
  exact Ordering.then_eq_lt.mpr (.inl (Std.TransCmp.lt_of_lt_of_isLE below onward))

theorem parted_at (set : AliasSet kind) (limit : Name kind) :
    (set.declarations.filter fun d => compare d.name limit == .lt) ++
      (set.declarations.filter fun d => compare d.name limit != .lt) = set.declarations := by
  have ordered := set.declarations_increasing
  refine increasing_unique _ _ ?_ ordered fun d => ?_
  · refine List.pairwise_append.mpr ⟨ordered.filter _, ordered.filter _, fun a below b above => ?_⟩
    exact names_apart limit a b (eq_of_beq (List.mem_filter.mp below).2)
      (bne_iff_ne.mp (List.mem_filter.mp above).2)
  · rw [List.mem_append, List.mem_filter, List.mem_filter, ← and_or_left]
    refine and_iff_left ?_
    by_cases less : compare d.name limit = .lt
    · exact .inl (beq_iff_eq.mpr less)
    · exact .inr (bne_iff_ne.mpr less)

theorem between_parts (set : AliasSet kind) (first limit : Name kind) :
    ∃ tail part, set.onward first = .ok tail ∧ tail.before limit = .ok part ∧
      set.between first limit = .ok part ∧
      Restriction set (fun d => compare d.name first != .lt && compare d.name limit == .lt) part := by
  obtain ⟨tail, onward, above⟩ := set.keep_restricts fun d => compare d.name first != .lt
  obtain ⟨part, before, below⟩ := tail.keep_restricts fun d => compare d.name limit == .lt
  obtain ⟨other, between, both⟩ := set.keep_restricts fun d =>
    compare d.name first != .lt && compare d.name limit == .lt
  have same : other = part := by
    refine eq_of_declarations other part ?_
    rw [both.declarations, below.declarations, above.declarations, List.filter_filter]
    simp only [Bool.and_comm]
  subst same
  exact ⟨tail, other, onward, before, between, both⟩

theorem mem_insert (set grown : AliasSet kind) (declaration : Alias kind)
    (inserted : set.insert declaration = .ok grown) (d : Alias kind) :
    d ∈ grown.declarations ↔ d = declaration ∨ d ∈ set.declarations := by
  rw [insert, set_elements_built] at inserted
  rw [((of_list_ok_iff _ grown).mp inserted).2.declarations, mem_sorted, mem_sorted,
    List.mem_append, List.mem_singleton, or_comm]

theorem delete_inserted (set grown : AliasSet kind) (declaration : Alias kind)
    (inserted : set.insert declaration = .ok grown) (fresh : declaration ∉ set.declarations) :
    grown.delete declaration = .ok set := by
  obtain ⟨part, deleted, restricted⟩ := grown.keep_restricts fun d => d ≠ declaration
  have same : part = set := by
    refine eq_of_declarations part set ?_
    rw [restricted.declarations]
    refine increasing_unique _ _ (grown.declarations_increasing.filter _)
      set.declarations_increasing fun d => ?_
    rw [List.mem_filter, mem_insert set grown declaration inserted, decide_eq_true_eq]
    constructor
    · rintro ⟨equal | member, different⟩
      · exact absurd equal different
      · exact member
    · exact fun member => ⟨.inr member, fun equal => fresh (equal ▸ member)⟩
  exact same ▸ deleted

theorem restrict_exact (set : AliasSet kind) :
    (∀ test, ∃ part, set.keep test = .ok part ∧ Restriction set test part) ∧
      (∀ declaration, ∃ part, set.delete declaration = .ok part ∧
        Restriction set (fun d => d ≠ declaration) part) ∧
      (∀ limit, ∃ head tail, set.before limit = .ok head ∧ set.onward limit = .ok tail ∧
        Restriction set (fun d => compare d.name limit == .lt) head ∧
        Restriction set (fun d => compare d.name limit != .lt) tail ∧
        head.declarations ++ tail.declarations = set.declarations) ∧
      (∀ first limit, ∃ tail part, set.onward first = .ok tail ∧ tail.before limit = .ok part ∧
        set.between first limit = .ok part ∧
        Restriction set (fun d => compare d.name first != .lt && compare d.name limit == .lt) part) ∧
      (∀ list, set.setElements list = ofList (sorted list) ∧ Increasing (sorted list) ∧
        ∀ d, d ∈ sorted list ↔ d ∈ list) ∧
      ∀ declaration grown, set.insert declaration = .ok grown →
        (∀ d, d ∈ grown.declarations ↔ d = declaration ∨ d ∈ set.declarations) ∧
        (declaration ∉ set.declarations → grown.delete declaration = .ok set) := by
  refine ⟨set.keep_restricts, fun declaration => set.keep_restricts _, ?_, set.between_parts, ?_, ?_⟩
  · intro limit
    obtain ⟨head, before, below⟩ := set.keep_restricts fun d => compare d.name limit == .lt
    obtain ⟨tail, onward, above⟩ := set.keep_restricts fun d => compare d.name limit != .lt
    refine ⟨head, tail, before, onward, below, above, ?_⟩
    rw [below.declarations, above.declarations, set.parted_at limit]
  · exact fun list => ⟨set.set_elements_built list, sorted_increasing list, fun d => mem_sorted d list⟩
  · intro declaration grown inserted
    exact ⟨set.mem_insert grown declaration inserted, set.delete_inserted grown declaration inserted⟩

end AliasSet

end PluginNaming
