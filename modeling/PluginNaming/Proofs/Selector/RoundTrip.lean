import PluginNaming.Data.Expected
import PluginNaming.Proofs.Selector.Word
import PluginNaming.Selector

set_option autoImplicit false

namespace PluginNaming

open Data Text

variable {kind : NameKind}

def isJoint (c : Char) : Bool :=
  c == ' ' || c == '('

theorem joint_mark (c : Char) (unmarked : isMark c = false) : isJoint c = false := by
  rw [← Bool.not_eq_true]
  intro joint
  simp only [isJoint, Bool.or_eq_true, beq_iff_eq] at joint
  rcases joint with rfl | rfl <;> exact absurd unmarked (by decide)

theorem NameKind.Separable.apart (separable : kind.Separable) : kind.Avoids isJoint where
  initial c initial := joint_mark c (separable.first c initial)
  part c part := joint_mark c (separable.part c part)

namespace Selector

def tail (selector : Selector kind) : List Char :=
  if selector.text = "" then [] else ' ' :: selector.text.toList

theorem print_tail (selector : Selector kind) :
    selector.print.toList = selector.name.text.toList ++ selector.tail := by
  unfold print tail
  by_cases empty : selector.text = ""
  · rw [if_pos empty, if_pos empty, List.append_nil]
  · rw [if_neg empty, if_neg empty]
    simp

inductive Joined : List Char → List Char → Prop where
  | none : Joined [] []
  | space (text : List Char) : Joined (' ' :: text) text
  | group (inner : List Char) : Joined ('(' :: inner) ('(' :: inner)

theorem tail_joined (selector : Selector kind) : Joined selector.tail selector.text.toList := by
  unfold tail
  by_cases empty : selector.text = ""
  · rw [if_pos empty, empty]
    exact .none
  · rw [if_neg empty]
    exact .space _

theorem joined_stops (behind text : List Char) (joined : Joined behind text) :
    Stops (fun c => !isJoint c) behind := by
  cases joined with
  | none => exact stops_nil _
  | space => exact stops_cons _ _ _ (by decide)
  | group => exact stops_cons _ _ _ (by decide)

theorem parse_joined (text : String) (selector : Selector kind)
    (found : parse kind text = .ok selector) : selector.name.text ≠ "" ∧
      ∃ behind, text.toList = selector.name.text.toList ++ behind ∧
        Joined behind selector.text.toList := by
  unfold parse at found
  split at found
  · cases found
  · cases found
  · rename_i name taken
    cases found
    obtain ⟨some, shape⟩ := name_taken _ _ _ taken
    exact ⟨some, [], shape, .none⟩
  · rename_i name c rest taken
    obtain ⟨some, shape⟩ := name_taken _ _ _ taken
    split at found
    · rename_i space
      cases found
      refine ⟨some, c :: rest, shape, ?_⟩
      rw [space, String.toList_ofList]
      exact .space rest
    · split at found
      · rename_i opens
        cases found
        refine ⟨some, c :: rest, shape, ?_⟩
        rw [opens, String.toList_ofList]
        exact .group rest
      · cases found

theorem tail_empty (selector : Selector kind) (none : selector.text.toList = []) :
    selector.tail = [] :=
  if_pos (String.toList_eq_nil_iff.mp none)

theorem tail_spaced (selector : Selector kind) (some : selector.text.toList ≠ []) :
    selector.tail = ' ' :: selector.text.toList :=
  if_neg fun empty => some (String.toList_eq_nil_iff.mpr empty)

theorem tail_injective (selector other : Selector kind) (same : selector.tail = other.tail) :
    selector.text = other.text := by
  refine String.toList_inj.mp ?_
  by_cases first : selector.text.toList = []
  · by_cases second : other.text.toList = []
    · exact first.trans second.symm
    · rw [selector.tail_empty first, other.tail_spaced second] at same
      cases same
  · by_cases second : other.text.toList = []
    · rw [selector.tail_spaced first, other.tail_empty second] at same
      cases same
    · rw [selector.tail_spaced first, other.tail_spaced second] at same
      exact (List.cons.inj same).2

theorem print_parsed (text : String) (selector : Selector kind)
    (found : parse kind text = .ok selector) :
    ∃ behind, text.toList = selector.name.text.toList ++ behind ∧
      (behind = [' '] → selector.print = selector.name.text) ∧
      (behind.head? = some '(' →
        selector.print = selector.name.text ++ " " ++ String.ofList behind) ∧
      (behind ≠ [' '] → behind.head? ≠ some '(' → selector.print = text) := by
  obtain ⟨_, behind, shape, joined⟩ := parse_joined text selector found
  refine ⟨behind, shape, ?_⟩
  have printed := selector.print_tail
  generalize written : selector.text.toList = letters at joined
  cases joined with
  | none =>
      rw [selector.tail_empty written, ← shape] at printed
      exact ⟨nofun, nofun, fun _ _ => String.toList_inj.mp printed⟩
  | space _ =>
      by_cases empty : letters = []
      · rw [selector.tail_empty (written.trans empty), List.append_nil] at printed
        exact ⟨fun _ => String.toList_inj.mp printed, nofun, fun apart => absurd (empty ▸ rfl) apart⟩
      · rw [selector.tail_spaced (written ▸ empty), written, ← shape] at printed
        refine ⟨fun alone => ?_, nofun, fun _ _ => String.toList_inj.mp printed⟩
        exact absurd (List.cons.inj alone).2 empty
  | group inner =>
      rw [selector.tail_spaced (written ▸ List.cons_ne_nil _ _), written] at printed
      refine ⟨nofun, fun _ => String.toList_inj.mp ?_, fun _ other => absurd rfl other⟩
      simpa using printed

section Apart

variable (avoids : kind.Avoids isJoint)

include avoids

theorem joined_parse (text : String) (selector : Selector kind) (some : selector.name.text ≠ "")
    (behind : List Char) (shape : text.toList = selector.name.text.toList ++ behind)
    (joined : Joined behind selector.text.toList) : parse kind text = .ok selector := by
  have stops := avoids_stops avoids behind (joined_stops behind _ joined)
  have taken := take_name_written selector.name behind some stops
  obtain ⟨name, kept⟩ := selector
  rw [parse, shape, taken]
  have same : String.ofList kept.toList = kept := String.ofList_toList
  generalize kept.toList = letters at joined same
  subst same
  cases joined with
  | none => rfl
  | space => rfl
  | group => rfl

theorem parse_print_iff (selector : Selector kind) :
    parse kind selector.print = .ok selector ↔ selector.name.text ≠ "" := by
  constructor
  · exact fun found => (parse_joined _ _ found).1
  · exact fun some => joined_parse avoids _ selector some _ selector.print_tail selector.tail_joined

theorem print_injective (selector other : Selector kind) (same : selector.print = other.print) :
    selector = other := by
  have unjoined : ∀ name : Name kind, (name.text.toList.all fun c => !isJoint c) = true :=
    fun name => List.all_eq_true.mpr fun c member => by simp [name_avoids avoids name c member]
  have letters := congrArg String.toList same
  rw [print_tail, print_tail] at letters
  obtain ⟨names, tails⟩ := run_unique _ _ _ _ _ (unjoined _)
    (joined_stops _ _ selector.tail_joined) (unjoined _) (joined_stops _ _ other.tail_joined) letters
  have name := Name.eq_of_text _ _ (String.toList_inj.mp names)
  have text := selector.tail_injective other tails
  cases selector
  cases other
  cases name
  cases text
  rfl

theorem stored_read (selector : Selector kind) (some : selector.name.text ≠ "") :
    (Json.text selector.print).readText (parse kind) = .ok selector := by
  change (parse kind selector.print).mapError Fault.message = .ok selector
  rw [(parse_print_iff avoids selector).mpr some]
  rfl

-- The empty name, if a kind admits it, is the only one that is not found again.
theorem parse_print_exact :
    (0 < kind.least → ∀ selector : Selector kind, parse kind selector.print = .ok selector ∧
      (Json.text selector.print).readText (parse kind) = .ok selector) ∧
      (∀ selector : Selector kind,
        parse kind selector.print = .ok selector ↔ selector.name.text ≠ "") ∧
      (∀ selector other : Selector kind, selector.print = other.print → selector = other) ∧
      ∀ text (selector : Selector kind), parse kind text = .ok selector →
        ∃ behind, text.toList = selector.name.text.toList ++ behind ∧
          (behind = [' '] → selector.print = selector.name.text) ∧
          (behind.head? = some '(' →
            selector.print = selector.name.text ++ " " ++ String.ofList behind) ∧
          (behind ≠ [' '] → behind.head? ≠ some '(' → selector.print = text) := by
  refine ⟨fun least selector => ?_, parse_print_iff avoids, print_injective avoids, print_parsed⟩
  have some := name_some least selector.name
  exact ⟨(parse_print_iff avoids selector).mpr some, stored_read avoids selector some⟩

end Apart

theorem parse_print_spaced :
    let spaced : Selector .plugin := ⟨⟨"a", by decide⟩, "  (b\n"⟩
    let group : Selector .plugin := ⟨⟨"a", by decide⟩, "(b)"⟩
    NameKind.plugin.Avoids isJoint ∧ 0 < NameKind.plugin.least ∧
      spaced.print = "a   (b\n" ∧ parse .plugin "a   (b\n" = .ok spaced ∧
      parse .plugin "a(b)" = .ok group ∧ group.print = "a (b)" := by
  intro spaced group
  have exact := parse_print_exact plugin_separable.apart
  have found : parse .plugin "a(b)" = .ok group := rfl
  obtain ⟨behind, shape, _, joined, _⟩ := exact.2.2.2 "a(b)" group found
  have opens : ['(', 'b', ')'] = behind := by simpa [group] using shape
  subst opens
  exact ⟨plugin_separable.apart, by decide, rfl, (exact.1 (by decide) spaced).1, found, joined rfl⟩

end Selector

end PluginNaming
