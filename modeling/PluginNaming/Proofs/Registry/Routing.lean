import PluginNaming.Proofs.InfoSet.Correspondence
import PluginNaming.Proofs.Registry.Owner

set_option autoImplicit false

namespace PluginNaming

open Ordered

variable [UrlLibrary] {kind : NameKind} {σ τ : Type}

section Claims

variable (name : Name kind)

theorem add_ambiguous (claims : Claims kind) (claim : Claim kind) :
    name ∈ (claims.add claim).ambiguous ↔ name ∈ claims.ambiguous ∨ (claim.info.name = name ∧
      ∃ earlier, claims.first.find? name = some earlier ∧ earlier.info ≠ claim.info) := by
  unfold Claims.add
  cases found : claims.first.find? claim.info.name with
  | none =>
      have nothing : ¬ (claim.info.name = name ∧
          ∃ earlier, claims.first.find? name = some earlier ∧ earlier.info ≠ claim.info) := by
        rintro ⟨rfl, earlier, known, _⟩
        cases found.symm.trans known
      simp [nothing]
  | some first =>
      by_cases equal : first.info = claim.info
      · have agreed : ¬ (claim.info.name = name ∧
            ∃ earlier, claims.first.find? name = some earlier ∧ earlier.info ≠ claim.info) := by
          rintro ⟨rfl, earlier, known, different⟩
          cases found.symm.trans known
          exact different equal
        simp [equal, agreed]
      · simp only [if_neg equal, mem_insert]
        constructor
        · rintro (rfl | before)
          · exact .inr ⟨rfl, first, found, equal⟩
          · exact .inl before
        · rintro (before | ⟨same, _⟩)
          · exact .inr before
          · exact .inl same.symm

-- If the first claim of a name agrees with the last one, it disagrees with whatever that one does.
theorem fold_ambiguous (claims : List (Claim kind)) :
    name ∈ (claims.foldl Claims.add { first := [], ambiguous := [] }).ambiguous ↔
      ∃ a ∈ claims, ∃ b ∈ claims, a.info.name = name ∧ b.info.name = name ∧ a.info ≠ b.info := by
  induction claims using List.reverseRecOn with
  | nil => simp
  | append_singleton done last hypothesis =>
      rw [List.foldl_append, List.foldl_cons, List.foldl_nil, add_ambiguous, hypothesis, fold_first]
      simp only [Table.find?, Option.none_or, List.mem_append, List.mem_singleton]
      constructor
      · rintro (⟨a, left, b, right, different⟩ | ⟨named, earlier, found, different⟩)
        · exact ⟨a, .inl left, b, .inl right, different⟩
        · exact ⟨earlier, .inl (List.mem_of_find?_eq_some found), last, .inr rfl,
            by simpa using List.find?_some found, named, different⟩
      · have against : ∀ b ∈ done, b.info.name = name → last.info.name = name → b.info ≠ last.info →
            (∃ a ∈ done, ∃ b ∈ done, a.info.name = name ∧ b.info.name = name ∧ a.info ≠ b.info) ∨
              (last.info.name = name ∧ ∃ earlier,
                done.find? (fun claim => claim.info.name = name) = some earlier ∧
                  earlier.info ≠ last.info) := by
          intro b member named same different
          have claimed : (done.find? fun claim => claim.info.name = name).isSome = true :=
            List.find?_isSome.mpr ⟨b, member, by simpa using named⟩
          obtain ⟨first, found⟩ := Option.isSome_iff_exists.mp claimed
          by_cases equal : first.info = last.info
          · exact .inl ⟨b, member, first, List.mem_of_find?_eq_some found, named,
              by simpa using List.find?_some found, fun agreed => different (agreed.trans equal)⟩
          · exact .inr ⟨same, first, found, equal⟩
        rintro ⟨a, left | rfl, b, right | rfl, first, second, different⟩
        · exact .inl ⟨a, left, b, right, first, second, different⟩
        · exact against a left first second different
        · exact against b right second first (Ne.symm different)
        · exact absurd rfl different

theorem fold_increasing (claims : List (Claim kind)) (start : Claims kind)
    (ordered : Increasing start.ambiguous) :
    Increasing (claims.foldl Claims.add start).ambiguous := by
  induction claims generalizing start with
  | nil => exact ordered
  | cons claim rest hypothesis =>
      refine hypothesis (start.add claim) ?_
      unfold Claims.add
      split
      · exact ordered
      · split
        · exact ordered
        · exact insert_increasing _ _ ordered

end Claims

namespace Registry

def Publishes (providers : List (Provider kind σ τ)) (info : Info kind) : Prop :=
  ∃ provider ∈ providers, info ∈ provider.infos.infos

def Disputed (providers : List (Provider kind σ τ)) (name : Name kind) : Prop :=
  ∃ a b, Publishes providers a ∧ Publishes providers b ∧ a.name = name ∧ b.name = name ∧ a.url ≠ b.url

structure First (providers : List (Provider kind σ τ)) (name : Name kind) (index : Nat)
    (provider : Provider kind σ τ) : Prop where
  place : providers[index]? = some provider
  publishes : provider.infos.hasName name = true
  earliest : ∀ earlier < index, ∀ other, providers[earlier]? = some other →
    other.infos.hasName name = false

section Routes

variable (providers : List (Provider kind σ τ)) (unknown : Unknown kind) (name : Name kind)

theorem published_iff (info : Info kind) :
    (∃ claim ∈ published providers, claim.info = info) ↔ Publishes providers info := by
  simp only [published, List.mem_flatMap, List.mem_map, Prod.exists]
  constructor
  · rintro ⟨_, ⟨provider, index, member, other, inside, rfl⟩, rfl⟩
    exact ⟨provider, List.fst_mem_of_mem_zipIdx member, inside⟩
  · rintro ⟨provider, member, inside⟩
    obtain ⟨index, bound, rfl⟩ := List.mem_iff_getElem.mp member
    exact ⟨⟨index, info⟩, ⟨providers[index], index, List.mk_mem_zipIdx_iff_getElem?.mpr (by simp [bound]),
      info, inside, rfl⟩, rfl⟩

theorem ambiguous_iff : name ∈ (ofList providers unknown).ambiguous ↔ Disputed providers name := by
  refine (fold_ambiguous name (published providers)).trans ?_
  constructor
  · rintro ⟨a, left, b, right, first, second, different⟩
    refine ⟨a.info, b.info, (published_iff providers _).mp ⟨a, left, rfl⟩,
      (published_iff providers _).mp ⟨b, right, rfl⟩, first, second, fun same => different ?_⟩
    cases infoA : a.info
    cases infoB : b.info
    simp_all
  · rintro ⟨a, b, left, right, first, second, different⟩
    obtain ⟨claim, member, rfl⟩ := (published_iff providers a).mpr left
    obtain ⟨other, inside, rfl⟩ := (published_iff providers b).mpr right
    exact ⟨claim, member, other, inside, first, second, fun same => different (congrArg Info.url same)⟩

theorem ambiguous_increasing : Increasing (ofList providers unknown).ambiguous :=
  fold_increasing (published providers) _ List.Pairwise.nil

theorem infos_iff (info : Info kind) :
    info ∈ (ofList providers unknown).infos ↔ Publishes providers info := by
  rw [infos, mem_sorted, List.mem_flatMap]
  rfl

theorem publishes_name :
    (∃ info, Publishes providers info ∧ info.name = name) ↔
      ∃ provider ∈ providers, provider.infos.hasName name = true := by
  constructor
  · rintro ⟨info, ⟨provider, member, inside⟩, named⟩
    exact ⟨provider, member, (InfoSet.has_name_iff _ _).mpr ⟨info, inside, named⟩⟩
  · rintro ⟨provider, member, has⟩
    obtain ⟨info, inside, named⟩ := (InfoSet.has_name_iff _ _).mp has
    exact ⟨info, ⟨provider, member, inside⟩, named⟩

theorem owned_iff :
    (∃ owner, (ofList providers unknown).ownerOf? name = some owner) ↔
      (∃ info, Publishes providers info ∧ info.name = name) ∧
        name ∉ (ofList providers unknown).ambiguous := by
  rw [publishes_name, owner_of_list]
  by_cases ambiguous : name ∈ (ofList providers unknown).ambiguous
  · simp [ambiguous]
  · rw [if_neg ambiguous, ← Option.isSome_iff_exists, List.find?_isSome]
    simp [ambiguous]

theorem owner_first (index : Nat) (found : (ofList providers unknown).owners.find? name = some index) :
    ∃ owner, First providers name index owner ∧
      (ofList providers unknown).ownerOf? name = some owner := by
  have owns : (ofList providers unknown).ownerOf? name = providers[index]? := by
    change ((ofList providers unknown).owners.find? name).bind (fun place => providers[place]?) = _
    rw [found, Option.bind_some]
  rw [owners_of_list] at found
  split at found
  · cases found
  · obtain ⟨bound, publishes, earliest⟩ := List.findIdx?_eq_some_iff_getElem.mp found
    have place : providers[index]? = some providers[index] := List.getElem?_eq_getElem bound
    refine ⟨providers[index], ⟨place, publishes, fun earlier less other here => ?_⟩, owns.trans place⟩
    obtain ⟨within, rfl⟩ := List.getElem?_eq_some_iff.mp here
    simpa using earliest earlier less

theorem disputed_mono (more : List (Provider kind σ τ)) (within : ∀ provider ∈ providers, provider ∈ more)
    (disputed : Disputed providers name) : Disputed more name := by
  obtain ⟨a, b, ⟨first, inFirst, left⟩, ⟨second, inSecond, right⟩, rest⟩ := disputed
  exact ⟨a, b, ⟨first, within first inFirst, left⟩, ⟨second, within second inSecond, right⟩, rest⟩

theorem alone_undisputed (provider : Provider kind σ τ)
    (alone : providers.filter (fun other => other.infos.hasName name) = [provider]) :
    ¬ Disputed providers name := by
  have only : ∀ other ∈ providers, other.infos.hasName name = true → other = provider := by
    intro other member has
    have kept : other ∈ providers.filter fun other => other.infos.hasName name :=
      List.mem_filter.mpr ⟨member, has⟩
    rw [alone] at kept
    exact List.mem_singleton.mp kept
  rintro ⟨a, b, ⟨first, inFirst, left⟩, ⟨second, inSecond, right⟩, named, also, different⟩
  have one := only first inFirst ((InfoSet.has_name_iff _ _).mpr ⟨a, left, named⟩)
  have two := only second inSecond ((InfoSet.has_name_iff _ _).mpr ⟨b, right, also⟩)
  subst one two
  exact different (congrArg Info.url (InfoSet.same_name _ a b left right (named.trans also.symm)))

theorem alone_owns (provider : Provider kind σ τ)
    (alone : providers.filter (fun other => other.infos.hasName name) = [provider]) :
    (ofList providers unknown).ownerOf? name = some provider := by
  rw [owner_of_list, if_neg (mt (ambiguous_iff providers unknown name).mp
    (alone_undisputed providers name provider alone)), ← List.head?_filter, alone]
  rfl

end Routes

section Order

variable (providers other : List (Provider kind σ τ)) (unknown : Unknown kind)
  (perm : providers.Perm other)

include perm

theorem publishes_perm (info : Info kind) : Publishes providers info ↔ Publishes other info :=
  exists_congr fun _ => and_congr_left fun _ => perm.mem_iff

theorem ambiguous_perm :
    (ofList other unknown).ambiguous = (ofList providers unknown).ambiguous := by
  refine increasing_unique _ _ (ambiguous_increasing other unknown)
    (ambiguous_increasing providers unknown) fun name => ?_
  rw [ambiguous_iff, ambiguous_iff]
  exact ⟨disputed_mono other name providers fun _ => perm.mem_iff.mpr,
    disputed_mono providers name other fun _ => perm.mem_iff.mp⟩

theorem infos_perm : (ofList other unknown).infos = (ofList providers unknown).infos := by
  refine increasing_unique _ _ (sorted_increasing _) (sorted_increasing _) fun info => ?_
  exact (infos_iff other unknown info).trans ((publishes_perm providers other perm info).symm.trans
    (infos_iff providers unknown info).symm)

theorem owned_perm (name : Name kind) :
    (∃ owner, (ofList other unknown).ownerOf? name = some owner) ↔
      ∃ owner, (ofList providers unknown).ownerOf? name = some owner := by
  rw [owned_iff, owned_iff, ambiguous_perm providers other unknown perm]
  simp only [publishes_perm providers other perm]

end Order

structure Routes (registry : Registry kind σ τ) (providers : List (Provider kind σ τ)) : Prop where
  infos : ∀ info, info ∈ registry.infos ↔ Publishes providers info
  ambiguous : ∀ name, name ∈ registry.ambiguous ↔ Disputed providers name
  owned : ∀ name, (∃ owner, registry.ownerOf? name = some owner) ↔
    (∃ info, Publishes providers info ∧ info.name = name) ∧ name ∉ registry.ambiguous
  first : ∀ name owner, registry.ownerOf? name = some owner →
    ∃ index, registry.owners.find? name = some index ∧ First providers name index owner
  within : ∀ name index, registry.owners.find? name = some index →
    ∃ owner, First providers name index owner ∧ registry.ownerOf? name = some owner
  either : ∀ info ∈ registry.infos,
    (info.name ∈ registry.ambiguous ∧ registry.ownerOf? info.name = none) ∨
      (info.name ∉ registry.ambiguous ∧ ∃ owner, registry.ownerOf? info.name = some owner)

theorem hidden_ambiguous (providers : List (Provider kind σ τ)) (unknown : Unknown kind)
    (name : Name kind) (ambiguous : name ∈ (ofList providers unknown).ambiguous) :
    (ofList providers unknown).ownerOf? name = none := by
  rw [owner_of_list, if_pos ambiguous]

theorem routes (providers : List (Provider kind σ τ)) (unknown : Unknown kind) :
    Routes (ofList providers unknown) providers where
  infos := infos_iff providers unknown
  ambiguous := ambiguous_iff providers unknown
  owned := owned_iff providers unknown
  first name owner owns := by
    obtain ⟨index, found, _⟩ := Option.bind_eq_some_iff.mp owns
    obtain ⟨provider, first, also⟩ := owner_first providers unknown name index found
    cases owns.symm.trans also
    exact ⟨index, found, first⟩
  within := owner_first providers unknown
  either info member := by
    by_cases ambiguous : info.name ∈ (ofList providers unknown).ambiguous
    · exact .inl ⟨ambiguous, hidden_ambiguous providers unknown info.name ambiguous⟩
    · have given := (infos_iff providers unknown info).mp member
      exact .inr ⟨ambiguous, (owned_iff providers unknown info.name).mpr ⟨⟨info, given, rfl⟩, ambiguous⟩⟩

theorem of_list_routes (providers : List (Provider kind σ τ)) (unknown : Unknown kind) :
    Routes (ofList providers unknown) providers ∧
      (∀ other, providers.Perm other →
        (ofList other unknown).ambiguous = (ofList providers unknown).ambiguous ∧
          (ofList other unknown).infos = (ofList providers unknown).infos ∧
          (∀ name, (∃ owner, (ofList other unknown).ownerOf? name = some owner) ↔
            ∃ owner, (ofList providers unknown).ownerOf? name = some owner) ∧
          ∀ name provider, providers.filter (fun other => other.infos.hasName name) = [provider] →
            (ofList providers unknown).ownerOf? name = some provider ∧
              (ofList other unknown).ownerOf? name = some provider) ∧
      ∀ more, providers.Sublist more → ∀ name ∈ (ofList providers unknown).ambiguous,
        name ∈ (ofList more unknown).ambiguous ∧ (ofList more unknown).ownerOf? name = none := by
  refine ⟨routes providers unknown, fun other perm => ⟨?_, ?_, ?_, ?_⟩, ?_⟩
  · exact ambiguous_perm providers other unknown perm
  · exact infos_perm providers other unknown perm
  · exact owned_perm providers other unknown perm
  · intro name provider alone
    have kept := perm.filter fun other => other.infos.hasName name
    rw [alone] at kept
    exact ⟨alone_owns providers unknown name provider alone,
      alone_owns other unknown name provider (List.singleton_perm.mp kept).symm⟩
  · intro more within name ambiguous
    have disputed := disputed_mono providers name more (fun _ member => within.subset member)
      ((ambiguous_iff providers unknown name).mp ambiguous)
    have still := (ambiguous_iff more unknown name).mpr disputed
    exact ⟨still, hidden_ambiguous more unknown name still⟩

end Registry

end PluginNaming
