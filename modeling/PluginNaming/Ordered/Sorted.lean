set_option autoImplicit false

namespace PluginNaming.Ordered

open Std

variable {α : Type} [Ord α]

def Increasing (items : List α) : Prop :=
  items.Pairwise fun earlier later => compare earlier later = .lt

def insert (fresh : α) : List α → List α
  | [] => [fresh]
  | first :: rest =>
      match compare fresh first with
      | .lt => fresh :: first :: rest
      | .eq => first :: rest
      | .gt => first :: insert fresh rest

def sorted (items : List α) : List α :=
  items.foldl (fun set item => insert item set) []

theorem mem_insert [LawfulEqOrd α] (item fresh : α) (items : List α) :
    item ∈ insert fresh items ↔ item = fresh ∨ item ∈ items := by
  induction items with
  | nil => simp [insert]
  | cons first rest hypothesis =>
      unfold insert
      split
      · simp
      · rename_i same
        have equal := LawfulEqCmp.eq_of_compare same
        simp [equal]
      · simp only [List.mem_cons, hypothesis]
        grind

theorem insert_increasing [TransOrd α] [LawfulEqOrd α] (fresh : α) (items : List α)
    (ordered : Increasing items) : Increasing (insert fresh items) := by
  induction items with
  | nil => simp [insert, Increasing]
  | cons first rest hypothesis =>
      have tail := List.pairwise_cons.mp ordered
      unfold insert
      split
      · rename_i less
        refine List.pairwise_cons.mpr ⟨?_, ordered⟩
        intro later member
        rcases List.mem_cons.mp member with same | inside
        · exact same ▸ less
        · exact TransCmp.lt_trans less (tail.1 later inside)
      · exact ordered
      · rename_i greater
        refine List.pairwise_cons.mpr ⟨?_, hypothesis tail.2⟩
        intro later member
        rcases (mem_insert later fresh rest).mp member with same | inside
        · exact same ▸ OrientedCmp.gt_iff_lt.mp greater
        · exact tail.1 later inside

theorem insert_pairwise [LawfulEqOrd α] (related : α → α → Prop)
    (symmetric : ∀ a b, related a b → related b a) (fresh : α) (items : List α)
    (apart : ∀ item ∈ items, related fresh item) (pairwise : items.Pairwise related) :
    (insert fresh items).Pairwise related := by
  induction items with
  | nil => simp [insert]
  | cons first rest hypothesis =>
      have tail := List.pairwise_cons.mp pairwise
      unfold insert
      split
      · exact List.pairwise_cons.mpr ⟨apart, pairwise⟩
      · exact pairwise
      · refine List.pairwise_cons.mpr ⟨?_, hypothesis ?_ tail.2⟩
        · intro later member
          rcases (mem_insert later fresh rest).mp member with same | inside
          · exact same ▸ symmetric _ _ (apart first List.mem_cons_self)
          · exact tail.1 later inside
        · exact fun item member => apart item (List.mem_cons_of_mem first member)

theorem mem_sorted [LawfulEqOrd α] (item : α) (items : List α) :
    item ∈ sorted items ↔ item ∈ items := by
  suffices general : ∀ set : List α,
      item ∈ items.foldl (fun set item => insert item set) set ↔ item ∈ set ∨ item ∈ items by
    simpa [sorted] using general []
  induction items with
  | nil => simp
  | cons first rest hypothesis =>
      intro set
      simp only [List.foldl_cons, hypothesis, mem_insert, List.mem_cons]
      grind

theorem sorted_increasing [TransOrd α] [LawfulEqOrd α] (items : List α) :
    Increasing (sorted items) := by
  suffices general : ∀ set : List α, Increasing set →
      Increasing (items.foldl (fun set item => insert item set) set) by
    exact general [] List.Pairwise.nil
  induction items with
  | nil => exact fun set ordered => ordered
  | cons first rest hypothesis =>
      exact fun set ordered => hypothesis _ (insert_increasing first set ordered)

end PluginNaming.Ordered
