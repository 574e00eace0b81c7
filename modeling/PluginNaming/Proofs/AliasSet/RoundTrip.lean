import PluginNaming.Proofs.AliasSet.Grammar
import PluginNaming.Proofs.Selector.RoundTrip

/- The text of a selector is written as it stands, but only a group in parentheses is read as one, and a url
   is read up to the first blank; what has another text or another url is not read back. -/

set_option autoImplicit false

namespace PluginNaming

open Text

variable {kind : NameKind}

def Selector.Bounded (selector : Selector kind) : Prop :=
  selector.text = "" ∨ Enclosed selector.text.toList

namespace Alias

theorem grouped_bounded (name : Name kind) (text rest : List Char) (parameters : String)
    (grouped : Grouped text parameters rest) : (⟨name, parameters⟩ : Selector kind).Bounded := by
  cases grouped with
  | none => exact .inl rfl
  | group _ _ enclosed _ => exact .inr enclosed

theorem tail_grouped (selector : Selector kind) (bounded : selector.Bounded) (rest : List Char) :
    Grouped (selector.tail ++ rest) selector.text rest := by
  unfold Selector.tail
  by_cases empty : selector.text = ""
  · rw [if_pos empty, empty]
    exact .none rest
  · rw [if_neg empty]
    exact .group ⟨[' '], rfl⟩ selector.text (bounded.resolve_left empty) rest

end Alias

section Urls

variable [UrlLibrary]

namespace Alias

structure Legible (declaration : Alias kind) : Prop where
  bounded : ∀ selector, declaration.selector? = some selector → selector.Bounded
  unbroken : ∀ url, declaration.url? = some url → url.Unbroken

theorem legible_itself (name : Name kind) : Legible ⟨name, .itself⟩ where
  bounded selector found := by cases found
  unbroken url found := by cases found

theorem legible_renamed (name : Name kind) (selector : Selector kind) (bounded : selector.Bounded) :
    Legible ⟨name, .renamed selector⟩ where
  bounded other found := by
    cases found
    exact bounded
  unbroken url found := by cases found

theorem legible_published (name : Name kind) (selector : Selector kind) (url : Url)
    (bounded : selector.Bounded) (unbroken : url.Unbroken) :
    Legible ⟨name, .published selector url⟩ where
  bounded other found := by
    cases found
    exact bounded
  unbroken other found := by
    cases found
    exact unbroken

structure Named (declaration : Alias kind) : Prop where
  own : declaration.name.text ≠ ""
  target : ∀ selector, declaration.selector? = some selector → selector.name.text ≠ ""

theorem named_of_least (least : 0 < kind.least) (declaration : Alias kind) : declaration.Named where
  own := name_some least declaration.name
  target selector _ := name_some least selector.name

theorem declared_legible (text rest : List Char) (declaration : Alias kind)
    (declared : Declared text declaration rest) : declaration.Legible := by
  cases declared with
  | itself name => exact legible_itself name
  | renamed name _ _ _ target _ tail parameters _ grouped =>
      exact legible_renamed name _ (grouped_bounded target tail _ parameters grouped)
  | published name _ _ _ target _ tail parameters _ _ url unbroken _ grouped =>
      exact legible_published name _ url (grouped_bounded target tail _ parameters grouped) unbroken

theorem read_legible (text rest : List Char) (declaration : Alias kind)
    (found : read kind text = .ok (declaration, rest)) : declaration.Legible := by
  obtain ⟨behind, declared, _⟩ := read_declared text rest declaration found
  exact declared_legible text behind declaration declared

theorem declared_named (text rest : List Char) (declaration : Alias kind)
    (declared : Declared text declaration rest) : declaration.Named := by
  cases declared with
  | itself name some => exact ⟨some, fun selector found => by cases found⟩
  | renamed name some _ _ target named | published name some _ _ target named =>
      refine ⟨some, fun selector found => ?_⟩
      cases found
      exact named

theorem read_named (text rest : List Char) (declaration : Alias kind)
    (found : read kind text = .ok (declaration, rest)) : declaration.Named := by
  obtain ⟨behind, declared, _⟩ := read_declared text rest declaration found
  exact declared_named text behind declaration declared

theorem print_declared (declaration : Alias kind) (named : declaration.Named)
    (legible : declaration.Legible) (rest : List Char)
    (ends : declaration.url?.isSome → rest = [] ∨ startsBlank rest = true) :
    Declared (declaration.print.toList ++ rest) declaration rest := by
  obtain ⟨name, target⟩ := declaration
  have some : name.text ≠ "" := named.own
  cases target with
  | itself => exact .itself name some rest
  | renamed selector =>
      have grouped := tail_grouped selector (legible.bounded selector rfl) rest
      have declared := Declared.renamed name some ⟨[' '], rfl⟩ (by decide) selector.name
        (named.target selector rfl) _ selector.text rest grouped
      simpa [print, selector.print_tail] using declared
  | published selector url =>
      have grouped := tail_grouped selector (legible.bounded selector rfl)
        (' ' :: (url.text.toList ++ rest))
      have declared := Declared.published name some ⟨[' '], rfl⟩ (by decide) selector.name
        (named.target selector rfl) _ selector.text ⟨[' '], rfl⟩ (by decide) url
        (legible.unbroken url rfl) rest grouped (ends rfl)
      simpa [print, selector.print_tail] using declared

-- Without a blank before it, a comma would be read as the last character of a url.
def layout : Layout (Alias kind) where
  write declaration := declaration.print.toList
  gap declaration := if declaration.url?.isSome then ⟨[' '], rfl⟩ else .none

theorem layout_parted (declaration : Alias kind) (rest : List Char)
    (ends : layout.Ends declaration rest) : Parted rest := by
  rcases ends with rfl | ⟨more, rfl⟩
  · exact parted_end .none
  · exact parted_comma _ more

theorem layout_url (declaration : Alias kind) (rest : List Char)
    (ends : layout.Ends declaration rest) (published : declaration.url?.isSome) :
    rest = [] ∨ startsBlank rest = true := by
  rcases ends with none | ⟨more, rfl⟩
  · exact .inl none
  · have gap : layout.gap declaration = ⟨[' '], rfl⟩ := if_pos published
    rw [gap]
    exact .inr rfl

variable [UrlLibrary.NeverBegins ','] [UrlLibrary.NeverBegins '('] in
theorem found_of_legible (avoids : kind.Avoids isLimit) (declaration : Alias kind)
    (named : declaration.Named) (legible : declaration.Legible) :
    layout.Found (entry kind) declaration where
  begun := by
    have declared := print_declared declaration named legible [] fun _ => .inl rfl
    rw [List.append_nil] at declared
    exact declared_visible avoids _ _ declaration declared
  read rest ends :=
    declared_read avoids _ rest declaration
      (print_declared declaration named legible rest (layout_url declaration rest ends))
      (layout_parted declaration rest ends)

end Alias

namespace AliasSet

theorem text_joined (declarations : List (Alias kind)) :
    (printAll declarations).toList = Alias.layout.join declarations := by
  induction declarations with
  | nil => rfl
  | cons first others hypothesis =>
      cases others with
      | nil => rfl
      | cons second rest =>
          have shape : printAll (first :: second :: rest) = first.print ++
              (if first.url?.isSome then " , " else ", ") ++ printAll (second :: rest) := rfl
          rw [shape, Layout.join, ← hypothesis]
          by_cases published : first.url?.isSome = true
          · simp [Alias.layout, published]
          · simp [Alias.layout, published, Gap.none]

theorem parse_legible (text : String) (set : AliasSet kind) (parsed : parse kind text = .ok set) :
    ∀ declaration ∈ set.declarations, declaration.Legible := by
  obtain ⟨list, read, built⟩ := (bind_ok_iff _ _ _).mp parsed
  have legible := listed_hold (Alias.entry kind) kind.label Alias.Legible
    (fun text declaration rest => Alias.read_legible text rest declaration) text list read
  obtain ⟨_, recorded⟩ := (of_list_ok_iff list set).mp built
  intro declaration member
  rw [recorded.declarations, Ordered.mem_sorted] at member
  exact legible declaration member

theorem parse_named (text : String) (set : AliasSet kind) (parsed : parse kind text = .ok set) :
    ∀ declaration ∈ set.declarations, declaration.Named := by
  obtain ⟨list, read, built⟩ := (bind_ok_iff _ _ _).mp parsed
  have named := listed_hold (Alias.entry kind) kind.label Alias.Named
    (fun text declaration rest => Alias.read_named text rest declaration) text list read
  obtain ⟨_, recorded⟩ := (of_list_ok_iff list set).mp built
  intro declaration member
  rw [recorded.declarations, Ordered.mem_sorted] at member
  exact named declaration member

section Apart

variable [UrlLibrary.NeverBegins ','] [UrlLibrary.NeverBegins '(']

theorem parse_legible_text (avoids : kind.Avoids isLimit) (set : AliasSet kind)
    (named : ∀ declaration ∈ set.declarations, declaration.Named)
    (legible : ∀ declaration ∈ set.declarations, declaration.Legible) :
    parse kind set.text = .ok set := by
  have read := listed_read (Alias.entry kind) kind.label Alias.layout set.declarations set.text
    (text_joined set.declarations) fun declaration member =>
      declaration.found_of_legible avoids (named declaration member) (legible declaration member)
  have built : ofList set.declarations = .ok set := (of_list_ok_iff _ _).mpr set.recorded
  exact (bind_ok_iff _ _ _).mpr ⟨set.declarations, read, built⟩

theorem parse_text (separable : kind.Separable) (least : 0 < kind.least) (set : AliasSet kind)
    (legible : ∀ declaration ∈ set.declarations, declaration.Legible) :
    parse kind set.text = .ok set :=
  set.parse_legible_text separable.avoids (fun declaration _ => declaration.named_of_least least) legible

theorem aliases_text_exact (separable : kind.Separable) (least : 0 < kind.least) (set : AliasSet kind) :
    ((∀ declaration ∈ set.declarations, ∀ url, declaration.url? = some url → url.Unbroken) →
      (parse kind set.text = .ok set ↔ ∀ declaration ∈ set.declarations,
        ∀ selector, declaration.selector? = some selector →
          selector.text = "" ∨ Enclosed selector.text.toList)) ∧
      ∀ text, parse kind text = .ok set → parse kind set.text = .ok set := by
  refine ⟨fun unbroken => ⟨?_, ?_⟩, ?_⟩
  · intro parsed declaration member
    exact (parse_legible _ set parsed declaration member).bounded
  · intro bounded
    exact set.parse_text separable least fun declaration member =>
      ⟨bounded declaration member, unbroken declaration member⟩
  · exact fun text parsed => set.parse_text separable least (parse_legible text set parsed)

end Apart

end AliasSet

end Urls

namespace AliasSet

attribute [local instance] UrlLibrary.sample

theorem aliases_text_grouped :
    let list : List (Alias .plugin) := [⟨⟨"x", by decide⟩, .published ⟨⟨"b", by decide⟩, "(y)"⟩
      ⟨"a://p", by decide⟩⟩, ⟨⟨"c", by decide⟩, .itself⟩]
    (NameKind.plugin.Separable ∧ 0 < NameKind.plugin.least) ∧
      ∃ set, ofList list = .ok set ∧
        (∀ declaration ∈ set.declarations, ∀ url, declaration.url? = some url → url.Unbroken) ∧
        parse .plugin set.text = .ok set := by
  intro list
  obtain ⟨set, built⟩ := of_list_ok list ⟨⟨by decide, by decide, by decide⟩, by decide⟩
  obtain ⟨_, recorded⟩ := (of_list_ok_iff list set).mp built
  have members : ∀ declaration ∈ set.declarations, declaration ∈ list := by
    intro declaration member
    rwa [recorded.declarations, Ordered.mem_sorted] at member
  have unbroken : ∀ declaration ∈ set.declarations, ∀ url, declaration.url? = some url →
      url.Unbroken := by
    intro declaration member url some
    rcases List.mem_cons.mp (members declaration member) with rfl | last
    · cases some
      decide
    · cases List.mem_singleton.mp last
      cases some
  refine ⟨⟨plugin_separable, by decide⟩, set, built, unbroken, ?_⟩
  refine ((aliases_text_exact plugin_separable (by decide) set).1 unbroken).mpr ?_
  intro declaration member selector some
  rcases List.mem_cons.mp (members declaration member) with rfl | last
  · cases some
    exact .inr ⟨['y'], .plain 'y' [] (by decide) .empty, rfl⟩
  · cases List.mem_singleton.mp last
    cases some

-- The text of a selector is taken over as it is, and is no group here.
theorem aliases_text_raw :
    ∃ selector : Selector .plugin, Selector.parse .plugin "b c" = .ok selector ∧
      ∃ set, ofList [⟨⟨"x", by decide⟩, .renamed selector⟩] = .ok set ∧ set.text = "x b c" ∧
        parse .plugin set.text ≠ .ok set := by
  let selector : Selector .plugin := ⟨⟨"b", by decide⟩, "c"⟩
  let declaration : Alias .plugin := ⟨⟨"x", by decide⟩, .renamed selector⟩
  obtain ⟨set, built⟩ := of_list_ok [declaration] ⟨⟨by decide, by decide, by decide⟩, by decide⟩
  obtain ⟨_, recorded⟩ := (of_list_ok_iff _ set).mp built
  have content : set.declarations = [declaration] := recorded.declarations
  refine ⟨selector, rfl, set, built, ?_, fun parsed => ?_⟩
  · rw [text, content]
    rfl
  · have legible := parse_legible _ set parsed declaration (content ▸ List.mem_singleton_self _)
    rcases legible.bounded selector rfl with empty | ⟨inner, _, shape⟩
    · exact absurd empty (by decide)
    · have group : "c".toList = '(' :: (inner ++ [')']) := shape
      cases group

end AliasSet

end PluginNaming
