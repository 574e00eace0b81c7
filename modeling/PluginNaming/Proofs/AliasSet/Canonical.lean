import PluginNaming.Proofs.AliasSet.Merge
import PluginNaming.Proofs.AliasSet.RoundTrip
import PluginNaming.Proofs.InfoSet.RoundTrip

set_option autoImplicit false

namespace PluginNaming

open Text

variable {kind : NameKind} {α : Type}

structure Canonical (parse : String → Except Fault α) (text : α → String) (sort : α → Prop) : Prop where
  accepted : ∀ value, sort value → parse (text value) = .ok value
  fixed : ∀ value, sort value → (parse (text value)).map text = .ok (text value)
  faithful : ∀ value other, sort value → sort other → (text value = text other ↔ value = other)

theorem canonical_of_accepted (parse : String → Except Fault α) (text : α → String) (sort : α → Prop)
    (accepted : ∀ value, sort value → parse (text value) = .ok value) :
    Canonical parse text sort where
  accepted := accepted
  fixed value sorted := by
    rw [accepted value sorted]
    rfl
  faithful value other first second := by
    refine ⟨fun same => ?_, congrArg text⟩
    exact Except.ok.inj ((accepted value first).symm.trans (same ▸ accepted other second))

theorem avoids_name (avoids : kind.Avoids isLimit) (name : Name kind) (some : name.text ≠ "")
    (rest : List Char) : Stops isBlank (name.text.toList ++ rest) := by
  obtain ⟨c, more, shape, visible, _⟩ := name_begins avoids name some
  rw [shape]
  exact stops_cons _ c _ visible

theorem avoids_comma (avoids : kind.Avoids isLimit) : kind.part ',' = false := by
  rw [← Bool.not_eq_true]
  intro part
  exact absurd (avoids.part ',' part) (by decide)

variable [UrlLibrary]

structure Info.Legible (info : Info kind) : Prop where
  named : info.name.text ≠ ""
  unbroken : info.url.Unbroken

namespace InfoSet

def Legible (set : InfoSet kind) : Prop :=
  ∀ info ∈ set.infos, info.Legible

theorem legible_text (avoids : kind.Avoids isLimit) (set : InfoSet kind) (legible : set.Legible) :
    parse kind set.text = .ok set := by
  refine set.parse_found fun info member => ?_
  have shown := legible info member
  exact info.found_of_spelled shown.unbroken shown.named (avoids_name avoids info.name shown.named)
    (avoids_comma avoids)

theorem parsed_legible (text : String) (set : InfoSet kind) (parsed : parse kind text = .ok set) :
    set.Legible := by
  obtain ⟨list, read, built⟩ := (bind_ok_iff _ _ _).mp parsed
  have named := listed_hold (Info.entry kind) "info" Info.Legible
    (fun text info rest found => ⟨Info.read_named text rest info found,
      Info.read_unbroken text rest info found⟩) text list read
  intro info member
  exact named info ((((of_list_ok_iff list set).mp built).2 info).mp member)

end InfoSet

namespace AliasSet

theorem merge_legible (set : AliasSet kind)
    (named : ∀ declaration ∈ set.declarations, declaration.Named)
    (legible : ∀ declaration ∈ set.declarations, declaration.Legible) (provided : InfoSet kind)
    (given : provided.Legible) (merged : InfoSet kind) (merges : set.merge provided = .ok merged) :
    merged.Legible := by
  obtain ⟨again, succeeds, content⟩ := set.merge_shows provided
  cases merges.symm.trans succeeds
  intro info member
  cases (content info).mp member with
  | published _ active =>
      obtain ⟨d, declared, same, selector, target, _⟩ := active
      exact ⟨same ▸ (named d declared).own,
        (legible d declared).unbroken info.url (by simp [Alias.url?, target])⟩
  | renamed d declared _ _ source own _ _ =>
      exact ⟨(named d declared).own, (given source own).unbroken⟩
  | plain _ _ _ _ own _ _ => exact given info own

end AliasSet

inductive InfoSet.FromText : InfoSet kind → Prop where
  | parsed (text : String) (set : InfoSet kind) (found : parse kind text = .ok set) : FromText set
  | merged (text : String) (aliases : AliasSet kind) (found : AliasSet.parse kind text = .ok aliases)
      (provided : InfoSet kind) (given : FromText provided) (set : InfoSet kind)
      (merges : aliases.merge provided = .ok set) : FromText set

def AliasSet.FromText (set : AliasSet kind) : Prop :=
  ∃ text, parse kind text = .ok set

theorem InfoSet.from_text_legible (set : InfoSet kind) (made : set.FromText) : set.Legible := by
  induction made with
  | parsed text set found => exact parsed_legible text set found
  | merged text aliases found provided _ set merges hypothesis =>
      exact aliases.merge_legible (AliasSet.parse_named text aliases found)
        (AliasSet.parse_legible text aliases found) provided hypothesis set merges

theorem InfoSet.text_canonical (avoids : kind.Avoids isLimit) :
    Canonical (parse kind) text FromText :=
  canonical_of_accepted _ _ _ fun set made => set.legible_text avoids (set.from_text_legible made)

theorem AliasSet.text_canonical [UrlLibrary.NeverBegins ','] [UrlLibrary.NeverBegins '(']
    (avoids : kind.Avoids isLimit) :
    Canonical (parse kind) text FromText := by
  refine canonical_of_accepted _ _ _ ?_
  rintro set ⟨text, found⟩
  exact set.parse_legible_text avoids (parse_named text set found) (parse_legible text set found)

end PluginNaming
