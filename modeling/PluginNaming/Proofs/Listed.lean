import PluginNaming.Listed
import PluginNaming.Proofs.Selector.Run

set_option autoImplicit false

namespace PluginNaming

open Text

variable {α : Type}

structure Layout (α : Type) where
  write : α → List Char
  gap : α → Gap

namespace Layout

def join (layout : Layout α) : List α → List Char
  | [] => []
  | [last] => layout.write last
  | first :: second :: rest =>
      layout.write first ++ ((layout.gap first).blanks ++ ',' :: ' ' :: layout.join (second :: rest))

def Ends (layout : Layout α) (item : α) (rest : List Char) : Prop :=
  rest = [] ∨ ∃ more, rest = (layout.gap item).blanks ++ ',' :: more

structure Found (layout : Layout α) (entry : EntryReader α) (item : α) : Prop where
  begun : ∃ c more, layout.write item = c :: more ∧ isBlank c = false
  read : ∀ rest, layout.Ends item rest → ∃ left,
    entry.read (layout.write item ++ rest) = .ok (item, left) ∧ skipBlanks left = skipBlanks rest

end Layout

section Entries

variable (entry : EntryReader α) (expected : String)

theorem entries_last (text rest : List Char) (first : α) (found : entry.read text = .ok (first, rest))
    (ended : skipBlanks rest = []) : readEntries entry expected text = .ok [first] := by
  rw [readEntries]
  split
  · rename_i failed
    cases failed.symm.trans found
  · rename_i same
    cases same.symm.trans found
    split
    · rfl
    · rename_i after
      cases after.symm.trans ended

theorem entries_more (text rest more others : List Char) (first : α) (c : Char)
    (found : entry.read text = .ok (first, rest)) (comma : skipBlanks rest = ',' :: more)
    (next : skipBlanks more = c :: others) :
    readEntries entry expected text = (readEntries entry expected (c :: others)).map (first :: ·) := by
  rw [readEntries]
  split
  · rename_i failed
    cases failed.symm.trans found
  · rename_i same
    cases same.symm.trans found
    split
    · rename_i after
      cases after.symm.trans comma
    · rename_i after
      cases after.symm.trans comma
      rw [if_pos rfl]
      split
      · rename_i ended
        cases ended.symm.trans next
      · rename_i following
        cases following.symm.trans next
        rfl

theorem entries_hold (holds : α → Prop)
    (reads : ∀ text item rest, entry.read text = .ok (item, rest) → holds item)
    (text : List Char) (items : List α) (found : readEntries entry expected text = .ok items) :
    ∀ item ∈ items, holds item := by
  fun_induction readEntries entry expected text generalizing items with
  | case1 => cases found
  | case2 text first rest read ended =>
      cases found
      intro item member
      cases List.mem_singleton.mp member
      exact reads text first rest read
  | case3 => cases found
  | case4 text first rest read more d others next comma hypothesis =>
      cases remaining : readEntries entry expected (d :: others) with
      | error stop =>
          rw [remaining] at found
          cases found
      | ok following =>
          rw [remaining] at found
          cases found
          intro item member
          cases member with
          | head => exact reads text first rest read
          | tail _ inside => exact hypothesis following remaining item inside
  | case5 => cases found

theorem listed_hold (holds : α → Prop)
    (reads : ∀ text item rest, entry.read text = .ok (item, rest) → holds item)
    (text : String) (items : List α) (found : readListed entry expected text = .ok items) :
    ∀ item ∈ items, holds item := by
  unfold readListed at found
  split at found
  · cases found
    intro item member
    cases member
  · rename_i c rest shown
    cases read : readEntries entry expected (c :: rest) with
    | error stop =>
        rw [read] at found
        cases found
    | ok others =>
        rw [read] at found
        cases found
        exact entries_hold entry expected holds reads (c :: rest) items read

variable (layout : Layout α)

theorem Layout.join_begun (first : α) (others : List α) (found : layout.Found entry first) :
    ∃ c more, layout.join (first :: others) = c :: more ∧ isBlank c = false := by
  obtain ⟨c, more, shape, visible⟩ := found.begun
  cases others with
  | nil => exact ⟨c, more, shape, visible⟩
  | cons second rest =>
      rw [join, shape]
      exact ⟨c, _, rfl, visible⟩

theorem skip_visible (c : Char) (more : List Char) (visible : isBlank c = false) :
    skipBlanks (c :: more) = c :: more :=
  List.dropWhile_cons_of_neg (by simp [visible])

theorem join_read (first : α) (others : List α)
    (found : ∀ item ∈ first :: others, layout.Found entry item) :
    readEntries entry expected (layout.join (first :: others)) = .ok (first :: others) := by
  induction others generalizing first with
  | nil =>
      obtain ⟨left, read, same⟩ := (found first List.mem_cons_self).read [] (.inl rfl)
      rw [List.append_nil] at read
      exact entries_last entry expected _ left first read same
  | cons second rest hypothesis =>
      have others := hypothesis second fun item member => found item (List.mem_cons_of_mem _ member)
      obtain ⟨c, more, shape, visible⟩ :=
        layout.join_begun entry second rest (found second (List.mem_cons_of_mem _ List.mem_cons_self))
      obtain ⟨left, read, same⟩ := (found first List.mem_cons_self).read _ (.inr ⟨_, rfl⟩)
      have comma := same.trans ((layout.gap first).skip (',' :: ' ' :: layout.join (second :: rest))
        (stops_cons _ _ _ (by decide)))
      have next : skipBlanks (' ' :: layout.join (second :: rest)) = c :: more := by
        rw [shape]
        exact skip_visible c more visible
      rw [Layout.join, entries_more entry expected _ left _ more first c read comma next, ← shape, others]
      rfl

theorem listed_read (items : List α) (text : String) (written : text.toList = layout.join items)
    (found : ∀ item ∈ items, layout.Found entry item) :
    readListed entry expected text = .ok items := by
  unfold readListed
  rw [written]
  cases items with
  | nil => rfl
  | cons first others =>
      have read := join_read entry expected layout first others found
      obtain ⟨c, more, shape, visible⟩ := layout.join_begun entry first others (found first List.mem_cons_self)
      rw [shape] at read ⊢
      rw [skip_visible c more visible]
      simp only [read]
      rfl

end Entries

end PluginNaming
