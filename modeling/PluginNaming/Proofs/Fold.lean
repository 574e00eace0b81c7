import PluginNaming.Fault

set_option autoImplicit false

namespace PluginNaming

variable {α β ε : Type}

theorem bind_ok_iff (first : Except ε α) (next : α → Except ε β) (last : β) :
    first >>= next = .ok last ↔ ∃ middle, first = .ok middle ∧ next middle = .ok last := by
  cases first with
  | error fault => simp [bind, Except.bind]
  | ok middle => simp [bind, Except.bind]

theorem bind_error_iff (first : Except ε α) (next : α → Except ε β) (fault : ε) :
    first >>= next = .error fault ↔
      first = .error fault ∨ ∃ middle, first = .ok middle ∧ next middle = .error fault := by
  cases first with
  | error other => simp [bind, Except.bind]
  | ok middle => simp [bind, Except.bind]

theorem fold_keeps (holds : List α → β → Prop) (step : β → α → Except ε β)
    (keeps : ∀ done item state next, holds done state → step state item = .ok next →
      holds (done ++ [item]) next)
    (items : List α) (start last : β) (begun : holds [] start)
    (folded : items.foldlM step start = .ok last) : holds items last := by
  suffices general : ∀ (rest done : List α) (state : β), holds done state →
      rest.foldlM step state = .ok last → holds (done ++ rest) last from
    general items [] start begun folded
  intro rest
  induction rest with
  | nil =>
      intro done state held folded
      cases folded
      simpa using held
  | cons item rest hypothesis =>
      intro done state held folded
      rw [List.foldlM_cons, bind_ok_iff] at folded
      obtain ⟨next, stepped, others⟩ := folded
      simpa using hypothesis (done ++ [item]) next (keeps done item state next held stepped) others

theorem fold_succeeds (holds : List α → β → Prop) (step : β → α → Except ε β) (items : List α)
    (advances : ∀ done item rest state, items = done ++ item :: rest → holds done state →
      ∃ next, step state item = .ok next ∧ holds (done ++ [item]) next)
    (start : β) (begun : holds [] start) :
    ∃ last, items.foldlM step start = .ok last ∧ holds items last := by
  suffices general : ∀ (rest done : List α) (state : β), items = done ++ rest → holds done state →
      ∃ last, rest.foldlM step state = .ok last ∧ holds items last from
    general items [] start rfl begun
  intro rest
  induction rest with
  | nil =>
      intro done state whole held
      refine ⟨state, rfl, ?_⟩
      simpa [whole] using held
  | cons item rest hypothesis =>
      intro done state whole held
      obtain ⟨next, stepped, kept⟩ := advances done item rest state whole held
      obtain ⟨last, folded, final⟩ := hypothesis (done ++ [item]) next (by simpa using whole) kept
      refine ⟨last, ?_, final⟩
      rw [List.foldlM_cons, stepped]
      exact folded

theorem fold_stopped (step : β → α → Except ε β) (items : List α) (start : β) (fault : ε)
    (failed : items.foldlM step start = .error fault) :
    ∃ done item rest state, items = done ++ item :: rest ∧ done.foldlM step start = .ok state ∧
      step state item = .error fault := by
  induction items generalizing start with
  | nil => cases failed
  | cons item rest hypothesis =>
      rw [List.foldlM_cons, bind_error_iff] at failed
      rcases failed with here | ⟨next, stepped, later⟩
      · exact ⟨[], item, rest, start, rfl, rfl, here⟩
      · obtain ⟨done, culprit, others, state, rfl, folded, blamed⟩ := hypothesis next later
        refine ⟨item :: done, culprit, others, state, rfl, ?_, blamed⟩
        rw [List.foldlM_cons, stepped]
        exact folded

theorem fold_failed (step : β → α → Except ε β) (items : List α) (start : β) (fault : ε)
    (failed : items.foldlM step start = .error fault) :
    ∃ state, ∃ item ∈ items, step state item = .error fault := by
  obtain ⟨done, item, rest, state, rfl, _, blamed⟩ := fold_stopped step items start fault failed
  exact ⟨state, item, List.mem_append_right _ List.mem_cons_self, blamed⟩

theorem map_succeeds (step : α → Except ε β) (items : List α)
    (succeeds : ∀ item ∈ items, ∃ value, step item = .ok value) :
    ∃ values, items.mapM step = .ok values := by
  induction items with
  | nil => exact ⟨[], rfl⟩
  | cons item rest hypothesis =>
      obtain ⟨value, first⟩ := succeeds item List.mem_cons_self
      obtain ⟨values, others⟩ := hypothesis fun other member =>
        succeeds other (List.mem_cons_of_mem _ member)
      exact ⟨value :: values, by rw [List.mapM_cons, first, others]; rfl⟩

theorem map_ok (step : α → Except ε β) (items : List α) (values : List β)
    (mapped : items.mapM step = .ok values) (item : α) (member : item ∈ items) :
    ∃ value, step item = .ok value := by
  induction items generalizing values with
  | nil => cases member
  | cons first rest hypothesis =>
      rw [List.mapM_cons, bind_ok_iff] at mapped
      obtain ⟨value, here, others⟩ := mapped
      obtain ⟨following, there, _⟩ := (bind_ok_iff _ _ _).mp others
      cases member with
      | head => exact ⟨value, here⟩
      | tail _ inside => exact hypothesis following there inside

theorem map_failed (step : α → Except ε β) (items : List α) (fault : ε)
    (failed : items.mapM step = .error fault) : ∃ item ∈ items, step item = .error fault := by
  induction items with
  | nil => cases failed
  | cons item rest hypothesis =>
      rw [List.mapM_cons] at failed
      cases first : step item with
      | error other =>
          rw [first] at failed
          cases failed
          exact ⟨item, List.mem_cons_self, first⟩
      | ok value =>
          cases others : rest.mapM step with
          | error other =>
              rw [first, others] at failed
              cases failed
              obtain ⟨culprit, member, blamed⟩ := hypothesis others
              exact ⟨culprit, List.mem_cons_of_mem _ member, blamed⟩
          | ok values =>
              rw [first, others] at failed
              cases failed

theorem map_some (step : α → Except ε β) (first : α) (others : List α) (values : List β)
    (found : (first :: others).mapM step = .ok values) : values ≠ [] := by
  rw [List.mapM_cons, bind_ok_iff] at found
  obtain ⟨value, _, rest⟩ := found
  obtain ⟨following, _, whole⟩ := (bind_ok_iff _ _ _).mp rest
  cases whole
  exact List.cons_ne_nil value following

theorem map_back (write : α → β) (read : β → Option α) (items : List α)
    (back : ∀ item ∈ items, read (write item) = some item) : (items.map write).mapM read = some items := by
  induction items with
  | nil => rfl
  | cons item rest hypothesis =>
      obtain ⟨here, others⟩ := List.forall_mem_cons.mp back
      rw [List.map_cons, List.mapM_cons, here, hypothesis others]
      rfl

theorem mem_mapped (read : α → Option β) (items : List α) (values : List β)
    (mapped : items.mapM read = some values) : ∀ value ∈ values, ∃ item ∈ items, read item = some value := by
  induction items generalizing values with
  | nil =>
      cases mapped
      exact fun value member => absurd member List.not_mem_nil
  | cons first rest hypothesis =>
      rw [List.mapM_cons] at mapped
      obtain ⟨value, here, mapped⟩ := Option.bind_eq_some_iff.mp mapped
      obtain ⟨others, later, mapped⟩ := Option.bind_eq_some_iff.mp mapped
      cases mapped
      refine List.forall_mem_cons.mpr ⟨⟨first, List.mem_cons_self, here⟩, fun other member => ?_⟩
      obtain ⟨item, inside, found⟩ := hypothesis others later other member
      exact ⟨item, List.mem_cons_of_mem first inside, found⟩

end PluginNaming
