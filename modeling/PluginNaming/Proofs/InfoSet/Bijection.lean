import PluginNaming.Proofs.InfoSet.Correspondence

set_option autoImplicit false

namespace PluginNaming.InfoSet

variable [UrlLibrary] {kind : NameKind}

theorem distinct_perm (left right : List (Info kind)) (perm : left.Perm right)
    (distinct : Distinct left) : Distinct right :=
  ⟨(perm.map Info.name).nodup_iff.mp distinct.names, (perm.map Info.url).nodup_iff.mp distinct.urls⟩

theorem of_list_perm (left right : List (Info kind)) (perm : left.Perm right) (set : InfoSet kind) :
    ofList left = .ok set ↔ ofList right = .ok set := by
  rw [of_list_ok_iff, of_list_ok_iff]
  refine and_congr ⟨distinct_perm left right perm, distinct_perm right left perm.symm⟩ ?_
  exact forall_congr' fun info => by rw [perm.mem_iff]

-- Infos are compared by url only where their names are equal, and in a set they never are.
theorem names_increasing (set : InfoSet kind) :
    Ordered.Increasing (set.infos.map Info.name) := by
  refine List.pairwise_map.mpr ((set.ordered.and set.distinctNames).imp ?_)
  rintro earlier later ⟨less, different⟩
  rcases Ordering.then_eq_lt.mp less with names | ⟨same, _⟩
  · exact names
  · exact absurd (Std.LawfulEqOrd.eq_of_compare same) different

theorem names_of_infos (set : InfoSet kind) : set.names = set.infos.map Info.name :=
  Ordered.increasing_unique _ _ (Ordered.sorted_increasing _) (names_increasing set) fun name =>
    Ordered.mem_sorted name _

theorem urls_of_infos (set : InfoSet kind) : set.urls.Perm (set.infos.map Info.url) :=
  (List.perm_ext_iff_of_nodup (Ordered.sorted_nodup _) (infos_distinct set).urls).mpr fun url =>
    Ordered.mem_sorted url _

structure Bijective (set : InfoSet kind) : Prop where
  sameUrl : ∀ a ∈ set.infos, ∀ b ∈ set.infos, a.url = b.url → a = b
  sameName : ∀ a ∈ set.infos, ∀ b ∈ set.infos, a.name = b.name → a = b
  increasing : set.infos.Pairwise fun earlier later => compare earlier.name later.name = .lt
  nameCount : set.names.length = set.infos.length
  urlCount : set.urls.length = set.infos.length
  nameThenUrl : ∀ name info, set.byName? name = some info →
    info ∈ set.infos ∧ info.name = name ∧ set.byUrl? info.url = some info
  urlThenName : ∀ url info, set.byUrl? url = some info →
    info ∈ set.infos ∧ info.url = url ∧ set.byName? info.name = some info
  found : ∀ info ∈ set.infos, set.byName? info.name = some info ∧ set.byUrl? info.url = some info

theorem bijective (set : InfoSet kind) : Bijective set where
  sameUrl a left b right := same_url set a b left right
  sameName a left b right := same_name set a b left right
  increasing := List.pairwise_map.mp (names_increasing set)
  nameCount := by rw [names_of_infos, List.length_map]
  urlCount := by rw [(urls_of_infos set).length_eq, List.length_map]
  nameThenUrl name info found := by
    obtain ⟨member, named⟩ := (by_name_iff set name info).mp found
    exact ⟨member, named, (by_url_iff set info.url info).mpr ⟨member, rfl⟩⟩
  urlThenName url info found := by
    obtain ⟨member, placed⟩ := (by_url_iff set url info).mp found
    exact ⟨member, placed, (by_name_iff set info.name info).mpr ⟨member, rfl⟩⟩
  found info member :=
    ⟨(by_name_iff set info.name info).mpr ⟨member, rfl⟩,
      (by_url_iff set info.url info).mpr ⟨member, rfl⟩⟩

theorem of_list_bijective :
    (∀ infos : List (Info kind), (∃ set, ofList infos = .ok set) ↔
      (infos.map Info.url).Nodup ∧ (infos.map Info.name).Nodup) ∧
    (∀ (infos others : List (Info kind)) (set : InfoSet kind), infos.Perm others →
      (ofList infos = .ok set ↔ ofList others = .ok set)) ∧
    (∀ (infos : List (Info kind)) (set : InfoSet kind), ofList infos = .ok set →
      ∀ info, info ∈ set.infos ↔ info ∈ infos) ∧
    ∀ set : InfoSet kind, ofList set.infos = .ok set ∧ Bijective set := by
  refine ⟨fun infos => ⟨?_, ?_⟩, ?_, ?_, ?_⟩
  · rintro ⟨set, built⟩
    have distinct := ((of_list_ok_iff infos set).mp built).1
    exact ⟨distinct.urls, distinct.names⟩
  · rintro ⟨urls, names⟩
    obtain ⟨set, built, _⟩ := of_list_succeeds infos ⟨names, urls⟩
    exact ⟨set, built⟩
  · exact fun infos others set perm => of_list_perm infos others perm set
  · exact fun infos set built => ((of_list_ok_iff infos set).mp built).2
  · exact fun set => ⟨of_list_infos set, bijective set⟩

end PluginNaming.InfoSet
