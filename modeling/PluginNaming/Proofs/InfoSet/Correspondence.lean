import PluginNaming.InfoSet
import PluginNaming.Proofs.Fold
import PluginNaming.Proofs.Ordered.Unique

set_option autoImplicit false

namespace PluginNaming

namespace InfoSet

variable [UrlLibrary] {kind : NameKind}

structure Distinct (infos : List (Info kind)) : Prop where
  names : (infos.map Info.name).Nodup
  urls : (infos.map Info.url).Nodup

theorem distinct_append (left right : List (Info kind)) :
    Distinct (left ++ right) ↔ Distinct left ∧ Distinct right ∧
      ∀ a ∈ left, ∀ b ∈ right, a.url ≠ b.url ∧ a.name ≠ b.name := by
  constructor
  · rintro ⟨names, urls⟩
    obtain ⟨leftNames, rightNames, names⟩ := List.pairwise_append.mp (List.pairwise_map.mp names)
    obtain ⟨leftUrls, rightUrls, urls⟩ := List.pairwise_append.mp (List.pairwise_map.mp urls)
    refine ⟨⟨?_, ?_⟩, ⟨?_, ?_⟩, fun a first b second => ⟨urls a first b second, names a first b second⟩⟩
    · exact List.pairwise_map.mpr leftNames
    · exact List.pairwise_map.mpr leftUrls
    · exact List.pairwise_map.mpr rightNames
    · exact List.pairwise_map.mpr rightUrls
  · rintro ⟨first, second, apart⟩
    constructor
    · refine List.pairwise_map.mpr (List.pairwise_append.mpr ⟨?_, ?_, fun a one b other => ?_⟩)
      · exact List.pairwise_map.mp first.names
      · exact List.pairwise_map.mp second.names
      · exact (apart a one b other).2
    · refine List.pairwise_map.mpr (List.pairwise_append.mpr ⟨?_, ?_, fun a one b other => ?_⟩)
      · exact List.pairwise_map.mp first.urls
      · exact List.pairwise_map.mp second.urls
      · exact (apart a one b other).1

theorem distinct_snoc (infos : List (Info kind)) (last : Info kind) :
    Distinct (infos ++ [last]) ↔
      Distinct infos ∧ last.url ∉ infos.map Info.url ∧ last.name ∉ infos.map Info.name := by
  have alone : Distinct [last] := ⟨List.nodup_singleton _, List.nodup_singleton _⟩
  rw [distinct_append]
  refine and_congr_right fun _ => ?_
  simp only [alone, true_and, List.mem_singleton, forall_eq, List.mem_map, not_exists, not_and,
    ← forall_and]

theorem infos_distinct (set : InfoSet kind) : Distinct set.infos :=
  ⟨List.pairwise_map.mpr set.distinctNames, List.pairwise_map.mpr set.distinctUrls⟩

theorem same_name (set : InfoSet kind) (a b : Info kind) (left : a ∈ set.infos)
    (right : b ∈ set.infos) (same : a.name = b.name) : a = b :=
  List.inj_on_of_nodup_map (infos_distinct set).names left right same

theorem same_url (set : InfoSet kind) (a b : Info kind) (left : a ∈ set.infos)
    (right : b ∈ set.infos) (same : a.url = b.url) : a = b :=
  List.inj_on_of_nodup_map (infos_distinct set).urls left right same

theorem eq_of_infos (left right : InfoSet kind) (same : left.infos = right.infos) :
    left = right := by
  cases left
  cases right
  cases same
  rfl

theorem infos_unique (left right : InfoSet kind)
    (same : ∀ info, info ∈ left.infos ↔ info ∈ right.infos) : left = right :=
  eq_of_infos left right (Ordered.increasing_unique _ _ left.ordered right.ordered same)

theorem has_name_iff (set : InfoSet kind) (name : Name kind) :
    set.hasName name = true ↔ ∃ info ∈ set.infos, info.name = name := by
  simp [hasName]

theorem has_url_iff (set : InfoSet kind) (url : Url) :
    set.hasUrl url = true ↔ ∃ info ∈ set.infos, info.url = url := by
  simp [hasUrl]

theorem by_name_iff (set : InfoSet kind) (name : Name kind) (info : Info kind) :
    set.byName? name = some info ↔ info ∈ set.infos ∧ info.name = name := by
  constructor
  · intro found
    exact ⟨List.mem_of_find?_eq_some found, by simpa using List.find?_some found⟩
  · rintro ⟨member, named⟩
    cases found : set.byName? name with
    | none => exact absurd named (by simpa using List.find?_eq_none.mp found info member)
    | some other =>
        have named' : other.name = name := by simpa using List.find?_some found
        rw [same_name set other info (List.mem_of_find?_eq_some found) member (named'.trans named.symm)]

theorem by_url_iff (set : InfoSet kind) (url : Url) (info : Info kind) :
    set.byUrl? url = some info ↔ info ∈ set.infos ∧ info.url = url := by
  constructor
  · intro found
    exact ⟨List.mem_of_find?_eq_some found, by simpa using List.find?_some found⟩
  · rintro ⟨member, placed⟩
    cases found : set.byUrl? url with
    | none => exact absurd placed (by simpa using List.find?_eq_none.mp found info member)
    | some other =>
        have placed' : other.url = url := by simpa using List.find?_some found
        rw [same_url set other info (List.mem_of_find?_eq_some found) member
          (placed'.trans placed.symm)]

theorem add_ok_iff (set next : InfoSet kind) (info : Info kind) :
    set.add info = .ok next ↔ info.url ∉ set.infos.map Info.url ∧
      info.name ∉ set.infos.map Info.name ∧ next.infos = Ordered.insert info set.infos := by
  have urls : set.hasUrl info.url = true ↔ info.url ∈ set.infos.map Info.url := by
    rw [has_url_iff, List.mem_map]
  have names : set.hasName info.name = true ↔ info.name ∈ set.infos.map Info.name := by
    rw [has_name_iff, List.mem_map]
  rw [← urls, ← names]
  unfold add
  split
  · simp_all
  · split
    · simp_all
    · rename_i freshUrl freshName
      refine ⟨fun added => ?_, fun added => congrArg Except.ok (eq_of_infos _ _ added.2.2.symm)⟩
      cases added
      exact ⟨freshUrl, freshName, rfl⟩

theorem add_succeeds (set : InfoSet kind) (info : Info kind)
    (freshUrl : info.url ∉ set.infos.map Info.url) (freshName : info.name ∉ set.infos.map Info.name) :
    ∃ next, set.add info = .ok next ∧ next.infos = Ordered.insert info set.infos := by
  have free : ¬ set.hasUrl info.url = true ∧ ¬ set.hasName info.name = true := by
    rw [has_url_iff, has_name_iff, ← List.mem_map, ← List.mem_map]
    exact ⟨freshUrl, freshName⟩
  exact ⟨_, by rw [add, dif_neg free.1, dif_neg free.2], rfl⟩

theorem of_list_keeps (infos : List (Info kind)) (set : InfoSet kind)
    (built : ofList infos = .ok set) : set.infos = Ordered.sorted infos ∧ Distinct infos := by
  refine fold_keeps (fun done set => set.infos = Ordered.sorted done ∧ Distinct done) add
    ?_ infos empty set ⟨rfl, ⟨List.nodup_nil, List.nodup_nil⟩⟩ built
  intro done item state next held added
  obtain ⟨content, distinct⟩ := held
  obtain ⟨freshUrl, freshName, grown⟩ := (add_ok_iff _ _ _).mp added
  have urls : item.url ∉ done.map Info.url := by
    simpa [content, Ordered.mem_sorted] using freshUrl
  have names : item.name ∉ done.map Info.name := by
    simpa [content, Ordered.mem_sorted] using freshName
  refine ⟨?_, (distinct_snoc done item).mpr ⟨distinct, urls, names⟩⟩
  rw [grown, content, Ordered.sorted_snoc]

theorem of_list_succeeds (infos : List (Info kind)) (distinct : Distinct infos) :
    ∃ set, ofList infos = .ok set ∧ set.infos = Ordered.sorted infos := by
  refine fold_succeeds (fun done set => set.infos = Ordered.sorted done) add infos ?_ empty rfl
  intro done item rest state whole content
  rw [whole, List.append_cons] at distinct
  have front := ((distinct_append (done ++ [item]) rest).mp distinct).1
  obtain ⟨_, freshUrl, freshName⟩ := (distinct_snoc done item).mp front
  obtain ⟨next, added, grown⟩ := add_succeeds state item
    (by simpa [content, Ordered.mem_sorted] using freshUrl)
    (by simpa [content, Ordered.mem_sorted] using freshName)
  exact ⟨next, added, by rw [grown, content, Ordered.sorted_snoc]⟩

theorem of_list_ok_iff (infos : List (Info kind)) (set : InfoSet kind) :
    ofList infos = .ok set ↔ Distinct infos ∧ ∀ info, info ∈ set.infos ↔ info ∈ infos := by
  constructor
  · intro built
    obtain ⟨content, distinct⟩ := of_list_keeps infos set built
    exact ⟨distinct, fun info => by rw [content, Ordered.mem_sorted]⟩
  · rintro ⟨distinct, members⟩
    obtain ⟨other, built, content⟩ := of_list_succeeds infos distinct
    rw [built]
    refine congrArg Except.ok (infos_unique other set fun info => ?_)
    rw [content, Ordered.mem_sorted, members]

theorem of_list_infos (set : InfoSet kind) : ofList set.infos = .ok set :=
  (of_list_ok_iff set.infos set).mpr ⟨infos_distinct set, fun _ => Iff.rfl⟩

theorem replaced_urls (set : InfoSet kind) (old info : Info kind) (placed : old.url = info.url) :
    (set.infos.map fun other => if other = old then info else other).map Info.url =
      set.infos.map Info.url := by
  rw [List.map_map]
  refine List.map_congr_left fun other _ => ?_
  by_cases hit : other = old <;> simp [hit, placed]

theorem mem_replaced (set : InfoSet kind) (old info : Info kind) (present : old ∈ set.infos)
    (placed : old.url = info.url) (other : Info kind) :
    other ∈ (set.infos.map fun other => if other = old then info else other) ↔
      other = info ∨ other ∈ set.infos ∧ other.url ≠ info.url := by
  have apart : ∀ other ∈ set.infos, other.url ≠ info.url ↔ other ≠ old := by
    intro other member
    rw [← placed]
    exact not_congr ⟨same_url set other old member present, congrArg Info.url⟩
  rw [List.mem_map]
  constructor
  · rintro ⟨original, member, result⟩
    by_cases hit : original = old
    · exact .inl (by simpa [hit] using result.symm)
    · have unchanged : original = other := by simpa [hit] using result
      subst unchanged
      exact .inr ⟨member, (apart original member).mpr hit⟩
  · rintro (fresh | ⟨member, different⟩)
    · exact ⟨old, present, by simp [fresh]⟩
    · exact ⟨other, member, by simp [(apart other member).mp different]⟩

-- However an info is put in, the set is built of the infos with other urls and of this one. Their urls
-- differ, so names alone can be in the way.
theorem put_listed (set : InfoSet kind) (info : Info kind) :
    ∃ list, set.put info = ofList list ∧ (list.map Info.url).Nodup ∧
      ∀ other, other ∈ list ↔ other = info ∨ other ∈ set.infos ∧ other.url ≠ info.url := by
  have urls := (infos_distinct set).urls
  unfold put
  cases found : set.byUrl? info.url with
  | none =>
      have fresh : ∀ other ∈ set.infos, other.url ≠ info.url := by
        intro other member same
        rw [(by_url_iff set info.url other).mpr ⟨member, same⟩] at found
        cases found
      have absent : info ∉ set.infos := fun member => fresh info member rfl
      refine ⟨set.infos ++ [info], by simp [insert, contains, absent], ?_, fun other => ?_⟩
      · rw [List.map_append, List.nodup_append]
        refine ⟨urls, List.nodup_singleton _, ?_⟩
        intro url known last alone same
        obtain ⟨other, member, placed⟩ := List.mem_map.mp known
        exact fresh other member (placed.trans (same.trans (List.mem_singleton.mp alone)))
      · rw [List.mem_append, List.mem_singleton, or_comm]
        exact or_congr_right ⟨fun member => ⟨member, fresh other member⟩, And.left⟩
  | some old =>
      obtain ⟨present, placed⟩ := (by_url_iff set info.url old).mp found
      have urls := (replaced_urls set old info placed).symm ▸ urls
      refine ⟨_, ?_, urls, mem_replaced set old info present placed⟩
      by_cases same : old = info
      · have unchanged : (fun other => if other = old then info else other) = id := by
          funext other
          by_cases hit : other = old
          · rw [if_pos hit, hit, same, id]
          · rw [if_neg hit, id]
        rw [unchanged, List.map_id, of_list_infos]
        simp [replace, same]
      · simp [replace, contains, present, same]

theorem put_succeeds (set : InfoSet kind) (info : Info kind)
    (free : ∀ other ∈ set.infos, other.name = info.name → other.url = info.url) :
    ∃ next, set.put info = .ok next ∧ ∀ other, other ∈ next.infos ↔
      other = info ∨ other ∈ set.infos ∧ other.url ≠ info.url := by
  obtain ⟨list, put, urls, members⟩ := set.put_listed info
  have names : (list.map Info.name).Nodup := by
    refine (List.nodup_map_iff_inj_on urls.of_map).mpr fun a left b right same => ?_
    rcases (members a).mp left with rfl | ⟨first, apart⟩
    · rcases (members b).mp right with rfl | ⟨second, apart⟩
      · rfl
      · exact absurd (free b second same.symm) apart
    · rcases (members b).mp right with rfl | ⟨second, _⟩
      · exact absurd (free a first same) apart
      · exact same_name set a b first second same
  obtain ⟨next, built, content⟩ := of_list_succeeds list ⟨names, urls⟩
  exact ⟨next, put.trans built, fun other => by rw [content, Ordered.mem_sorted, members]⟩

end InfoSet

end PluginNaming
