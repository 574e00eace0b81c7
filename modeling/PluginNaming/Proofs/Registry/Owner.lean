import PluginNaming.Proofs.Selector.Action
import PluginNaming.Registry

set_option autoImplicit false

namespace PluginNaming

open Ordered Std

variable {kind : NameKind} {σ τ : Type}

namespace Ordered.Table

variable {α β γ : Type} [Ord α] (key : α)

theorem find_filter_keys [LawfulEqOrd α] (test : α → Bool) (table : Table α β) :
    find? key (List.filter (fun entry => test entry.1) table) =
      if test key then table.find? key else none := by
  induction table with
  | nil => simp [find?]
  | cons first rest hypothesis =>
      by_cases same : key = first.1
      · subst same
        cases kept : test first.1 with
        | true => simp [kept, find?]
        | false => simpa [kept] using hypothesis
      · have apart : compare key first.1 ≠ .eq := by simpa using same
        cases kept : test first.1 with
        | true => simpa [kept, find?, apart] using hypothesis
        | false => simpa [kept, find?, apart] using hypothesis

theorem find_map_values (change : β → γ) (table : Table α β) :
    find? key (List.map (fun entry => (entry.1, change entry.2)) table) =
      (table.find? key).map change := by
  induction table with
  | nil => rfl
  | cons first rest hypothesis =>
      by_cases same : compare key first.1 = .eq
      · simp [find?, same]
      · simp [find?, same, hypothesis]

end Ordered.Table

variable [UrlLibrary]

section Claims

variable (name : Name kind)

theorem add_first (claims : Claims kind) (claim : Claim kind) :
    (claims.add claim).first.find? name = (claims.first.find? name).or
      (if claim.info.name = name then some claim else none) := by
  unfold Claims.add
  by_cases same : claim.info.name = name
  · subst same
    cases found : claims.first.find? claim.info.name with
    | none => simp [Table.find_set_self]
    | some earlier =>
        by_cases equal : earlier.info = claim.info
        · simp [equal, found]
        · simp [equal, found]
  · rw [if_neg same, Option.or_none]
    split
    · exact Table.find_set_other _ _ _ _ (Ne.symm same)
    · split <;> rfl

theorem fold_first (claims : List (Claim kind)) (start : Claims kind) :
    (claims.foldl Claims.add start).first.find? name =
      (start.first.find? name).or (claims.find? fun claim => claim.info.name = name) := by
  induction claims generalizing start with
  | nil => simp
  | cons claim rest hypothesis =>
      rw [List.foldl_cons, hypothesis, add_first, Option.or_assoc]
      by_cases same : claim.info.name = name
      · simp [same]
      · simp [same]

end Claims

namespace Registry

variable (providers : List (Provider kind σ τ)) (unknown : Unknown kind) (name : Name kind)

-- The claims of the providers from one on, which is not the first one inside the induction.
theorem published_first (start : Nat) :
    (((providers.zipIdx start).flatMap fun (provider, owner) =>
        provider.infos.infos.map fun info => ({ owner, info } : Claim kind)).find?
          fun claim => claim.info.name = name).map Claim.owner =
      (providers.findIdx? fun provider => provider.infos.hasName name).map (· + start) := by
  induction providers generalizing start with
  | nil => rfl
  | cons provider rest hypothesis =>
      have own : ((provider.infos.infos.map fun info => ({ owner := start, info } : Claim kind)).find?
          fun claim => claim.info.name = name) =
          (provider.infos.byName? name).map fun info => { owner := start, info } := by
        rw [List.find?_map]
        rfl
      have published : provider.infos.hasName name = (provider.infos.byName? name).isSome := by
        rw [Bool.eq_iff_iff]
        simp [InfoSet.hasName, InfoSet.byName?]
      rw [List.zipIdx_cons, List.flatMap_cons, List.find?_append, List.findIdx?_cons, own, published]
      cases provider.infos.byName? name with
      | some info => simp
      | none =>
          rw [Option.map_none, Option.none_or, hypothesis, Option.isSome_none, if_neg (by simp),
            Option.map_map]
          congr 1
          funext index
          simp only [Function.comp_apply]
          omega

theorem owners_of_list :
    (ofList providers unknown).owners.find? name =
      if name ∈ (ofList providers unknown).ambiguous then none
      else providers.findIdx? fun provider => provider.infos.hasName name := by
  let claims := (published providers).foldl Claims.add { first := [], ambiguous := [] }
  have first : (claims.first.find? name).map Claim.owner =
      providers.findIdx? fun provider => provider.infos.hasName name := by
    rw [fold_first]
    exact (published_first providers name 0).trans Option.map_id'
  change Table.find? name (List.map (fun entry => (entry.1, Claim.owner entry.2))
    (List.filter (fun entry => !claims.ambiguous.contains entry.1) claims.first)) =
      if name ∈ claims.ambiguous then none else _
  rw [Table.find_map_values name Claim.owner,
    Table.find_filter_keys name (fun other => !claims.ambiguous.contains other), ← first]
  by_cases ambiguous : name ∈ claims.ambiguous
  · simp [ambiguous]
  · simp [ambiguous]

theorem owner_of_list :
    (ofList providers unknown).ownerOf? name =
      if name ∈ (ofList providers unknown).ambiguous then none
      else providers.find? fun provider => provider.infos.hasName name := by
  change ((ofList providers unknown).owners.find? name).bind (fun index => providers[index]?) = _
  rw [owners_of_list, List.find?_eq_bind_findIdx?_getElem?]
  by_cases ambiguous : name ∈ (ofList providers unknown).ambiguous
  · rw [if_pos ambiguous, if_pos ambiguous, Option.bind_none]
  · rw [if_neg ambiguous, if_neg ambiguous]

section Calls

variable (registry : Registry kind σ τ) (owner : Provider kind σ τ) (lookup : Lookup)
  (values : List (Value τ))

theorem require_owned (owns : registry.ownerOf? name = some owner) :
    registry.require name = .ok owner := by
  rw [require, owns]

theorem plugin_owned (owns : registry.ownerOf? name = some owner) :
    registry.plugin lookup name values = owner.plugin lookup name values := by
  simp [plugin, registry.require_owned name owner owns, liftExcept]

theorem plugin_ok (state : σ) (made : τ)
    (found : ((registry.plugin lookup name values).perform state).1 = .ok made) :
    ∃ owner, registry.ownerOf? name = some owner ∧
      ((owner.plugin lookup name values).perform state).1 = .ok made := by
  cases owns : registry.ownerOf? name with
  | none =>
      have refused : registry.require name = .error (registry.unknown name) := by rw [require, owns]
      rw [plugin, refused] at found
      cases found
  | some owner =>
      rw [registry.plugin_owned name owner lookup values owns] at found
      exact ⟨owner, rfl, found⟩

end Calls

end Registry

end PluginNaming
