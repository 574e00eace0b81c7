import Mathlib.Data.List.Induction
import Mathlib.Data.List.Sort
import PluginNaming.Ordered.Table

set_option autoImplicit false

namespace PluginNaming.Ordered

open Std

variable {α β γ : Type} [Ord α]

theorem ordered_unique [OrientedOrd α] (key : γ → α) (left right : List γ)
    (leftOrdered : left.Pairwise fun a b => compare (key a) (key b) = .lt)
    (rightOrdered : right.Pairwise fun a b => compare (key a) (key b) = .lt)
    (same : ∀ item, item ∈ left ↔ item ∈ right) : left = right := by
  have irreflexive : Std.Irrefl fun a b : γ => compare (key a) (key b) = .lt :=
    ⟨fun a less => by simp [ReflOrd.compare_self] at less⟩
  have antisymmetric : Std.Antisymm fun a b : γ => compare (key a) (key b) = .lt :=
    ⟨fun a b less greater => by
      rw [OrientedCmp.gt_of_lt less] at greater
      cases greater⟩
  exact leftOrdered.eq_of_mem_iff rightOrdered same

theorem increasing_unique [OrientedOrd α] (left right : List α) (leftOrdered : Increasing left)
    (rightOrdered : Increasing right) (same : ∀ item, item ∈ left ↔ item ∈ right) : left = right :=
  ordered_unique id left right leftOrdered rightOrdered same

theorem sorted_congr [TransOrd α] [LawfulEqOrd α] (left right : List α)
    (same : ∀ item, item ∈ left ↔ item ∈ right) : sorted left = sorted right :=
  increasing_unique _ _ (sorted_increasing left) (sorted_increasing right) fun item => by
    rw [mem_sorted, mem_sorted, same]

theorem sorted_snoc (items : List α) (last : α) :
    sorted (items ++ [last]) = insert last (sorted items) := by
  simp [sorted]

theorem increasing_nodup [OrientedOrd α] (items : List α) (ordered : Increasing items) :
    items.Nodup := by
  refine ordered.imp ?_
  intro earlier later less same
  subst same
  simp [ReflOrd.compare_self] at less

theorem sorted_nodup [TransOrd α] [LawfulEqOrd α] (items : List α) : (sorted items).Nodup :=
  increasing_nodup _ (sorted_increasing items)

namespace Table

theorem of_entries_snoc (entries : List (α × β)) (last : α × β) :
    ofEntries (entries ++ [last]) = (ofEntries entries).set last.1 last.2 := by
  simp [ofEntries]

theorem mem_set [LawfulEqOrd α] (key : α) (value : β) (table : Table α β)
    (fresh : key ∉ table.keys) (entry : α × β) :
    entry ∈ table.set key value ↔ entry = (key, value) ∨ entry ∈ table := by
  induction table with
  | nil => simp [set]
  | cons first rest hypothesis =>
      have apart : key ≠ first.1 := fun same => fresh (by simp [keys, same])
      have later : key ∉ keys rest := fun member => fresh (List.mem_cons_of_mem _ member)
      unfold set
      split
      · simp
      · rename_i same
        exact absurd (LawfulEqCmp.eq_of_compare same) apart
      · simp only [List.mem_cons, hypothesis later]
        grind

theorem set_increasing [TransOrd α] [LawfulEqOrd α] (key : α) (value : β) (table : Table α β)
    (ordered : Increasing table.keys) :
    Increasing (table.set key value).keys ∧
      ∀ other ∈ (table.set key value).keys, other = key ∨ other ∈ table.keys := by
  induction table with
  | nil => simp [set, keys, Increasing]
  | cons first rest hypothesis =>
      have tail := List.pairwise_cons.mp ordered
      obtain ⟨grown, inside⟩ := hypothesis tail.2
      unfold set
      split
      · rename_i less
        refine ⟨List.pairwise_cons.mpr ⟨?_, ordered⟩, by simp [keys]⟩
        intro later member
        rcases List.mem_cons.mp member with same | within
        · exact same ▸ less
        · exact TransCmp.lt_trans less (tail.1 later within)
      · rename_i same
        have equal := LawfulEqCmp.eq_of_compare same
        refine ⟨List.pairwise_cons.mpr ⟨equal ▸ tail.1, tail.2⟩, ?_⟩
        intro other member
        simp only [keys, List.map_cons, List.mem_cons] at member ⊢
        tauto
      · rename_i greater
        refine ⟨List.pairwise_cons.mpr ⟨?_, grown⟩, ?_⟩
        · intro later member
          rcases inside later member with same | within
          · exact same ▸ OrientedCmp.gt_iff_lt.mp greater
          · exact tail.1 later within
        · intro other member
          rcases List.mem_cons.mp member with same | within
          · exact .inr (same ▸ List.mem_cons_self)
          · exact (inside other within).imp id (List.mem_cons_of_mem _)

theorem of_entries_increasing [TransOrd α] [LawfulEqOrd α] (entries : List (α × β)) :
    Increasing (ofEntries entries).keys := by
  suffices general : ∀ table : Table α β, Increasing table.keys →
      Increasing (entries.foldl (fun table entry => table.set entry.1 entry.2) table).keys from
    general [] List.Pairwise.nil
  induction entries with
  | nil => exact fun table ordered => ordered
  | cons first rest hypothesis =>
      exact fun table ordered => hypothesis _ (set_increasing _ _ _ ordered).1

theorem mem_of_entries [LawfulEqOrd α] (entries : List (α × β))
    (distinct : (entries.map Prod.fst).Nodup) (entry : α × β) :
    entry ∈ ofEntries entries ↔ entry ∈ entries := by
  induction entries using List.reverseRecOn generalizing entry with
  | nil => simp [ofEntries]
  | append_singleton entries last hypothesis =>
      rw [List.map_append, List.nodup_append] at distinct
      have earlier := hypothesis distinct.1
      have fresh : last.1 ∉ (ofEntries entries).keys := by
        intro member
        obtain ⟨other, stored, same⟩ := List.mem_map.mp member
        exact distinct.2.2 other.1 (List.mem_map_of_mem ((earlier other).mp stored)) last.1
          (by simp) same
      rw [of_entries_snoc, mem_set _ _ _ fresh, earlier, List.mem_append, List.mem_singleton]
      tauto

theorem find_iff_mem [LawfulEqOrd α] (table : Table α β) (distinct : table.keys.Nodup) (key : α)
    (value : β) : table.find? key = some value ↔ (key, value) ∈ table := by
  induction table with
  | nil => simp [find?]
  | cons first rest hypothesis =>
      obtain ⟨fresh, tail⟩ := List.nodup_cons.mp distinct
      by_cases same : key = first.1
      · subst same
        have absent : ∀ other, (first.1, other) ∉ rest := fun other member =>
          fresh (List.mem_map.mpr ⟨_, member, rfl⟩)
        simp [find?, absent, Prod.ext_iff, eq_comm]
      · have apart : compare key first.1 ≠ .eq := by simpa using same
        simp [find?, apart, hypothesis tail, Prod.ext_iff, same]

theorem find_of_entries [TransOrd α] [LawfulEqOrd α] (entries : List (α × β))
    (distinct : (entries.map Prod.fst).Nodup) (key : α) (value : β) :
    (ofEntries entries).find? key = some value ↔ (key, value) ∈ entries := by
  rw [find_iff_mem _ (increasing_nodup _ (of_entries_increasing entries)),
    mem_of_entries entries distinct]

theorem of_entries_congr [TransOrd α] [LawfulEqOrd α] (left right : List (α × β))
    (leftDistinct : (left.map Prod.fst).Nodup) (rightDistinct : (right.map Prod.fst).Nodup)
    (same : ∀ entry, entry ∈ left ↔ entry ∈ right) : ofEntries left = ofEntries right := by
  have leftOrdered := List.pairwise_map.mp (of_entries_increasing left)
  have rightOrdered := List.pairwise_map.mp (of_entries_increasing right)
  refine ordered_unique Prod.fst _ _ leftOrdered rightOrdered ?_
  intro entry
  rw [mem_of_entries left leftDistinct, mem_of_entries right rightDistinct, same]

theorem of_entries_perm [TransOrd α] [LawfulEqOrd α] (entries : List (α × β)) (table : Table α β)
    (ordered : Increasing table.keys) (perm : entries.Perm table) : ofEntries entries = table := by
  have distinct : (entries.map Prod.fst).Nodup :=
    (perm.map Prod.fst).nodup_iff.mpr (increasing_nodup _ ordered)
  refine ordered_unique Prod.fst _ _ (List.pairwise_map.mp (of_entries_increasing entries))
    (List.pairwise_map.mp ordered) fun entry => ?_
  rw [mem_of_entries entries distinct, perm.mem_iff]

end Table

end PluginNaming.Ordered
