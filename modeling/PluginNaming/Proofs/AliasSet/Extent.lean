import PluginNaming.Proofs.AliasSet.Grammar
import PluginNaming.Proofs.Scanner
import PluginNaming.Proofs.Selector.Reading

set_option autoImplicit false

namespace PluginNaming

open Text

variable {kind : NameKind}

namespace Phrase

theorem no_blank_mark (gap : Gap) (c : Char) (shown : isBlank c = false) : c ∉ gap.blanks := by
  intro member
  rw [List.all_eq_true.mp gap.blank c member] at shown
  cases shown

theorem listed_alone (phrase : Phrase kind) (opens : phrase.print.head? = some '(')
    (closes : phrase.print.getLast? = some ')') : ∃ group, phrase = .listed .none group .none := by
  cases phrase with
  | blank gap =>
      exact absurd (List.mem_of_mem_head? opens) (no_blank_mark gap '(' (by decide))
  | listed before group after =>
      have begins : before.blanks = [] := by
        cases shape : before.blanks with
        | nil => rfl
        | cons c more =>
            rw [print, shape] at opens
            cases opens
            exact absurd (shape ▸ List.mem_cons_self) (no_blank_mark before '(' (by decide))
      have ends : after.blanks = [] := by
        by_contra some
        have last := List.getLast?_eq_some_getLast some
        rw [print, List.getLast?_append, List.getLast?_append, last] at closes
        have mark : after.blanks.getLast some = ')' := Option.some.inj closes
        exact no_blank_mark after ')' (by decide) (mark ▸ List.getLast_mem some)
      obtain rfl : before = .none := Gap.ext begins
      obtain rfl : after = .none := Gap.ext ends
      exact ⟨group, rfl⟩

end Phrase

structure Extent (kind : NameKind) (list rest : List Char) : Prop where
  group : takeGroup (list ++ rest) = .token (String.ofList list) rest
  scanned : ∀ scanner : Scanner, scanner.rest = list ++ rest → ∃ next,
    scanner.take takeGroup = (.ok (some (String.ofList list)), next) ∧
      next.place = scanner.place + list.length ∧ next.rest = rest
  read : ∃ inner, list = '(' :: inner ∧
    Reads (readArguments kind (inner ++ rest)) (Arguments.ofText kind list) rest
  ended : skipBlanks rest = [] → Arguments.ofText kind (list ++ rest) = Arguments.ofText kind list
  followed : ∀ c more, skipBlanks rest = c :: more → Arguments.ofText kind (list ++ rest) =
    (Arguments.ofText kind list).breakOff ⟨.unexpected, c :: more⟩

namespace Group

variable (separable : kind.Separable) (group : Group kind)

include separable

theorem of_text : Arguments.ofText kind group.print = group.arguments := by
  have listed := (Phrase.listed .none group .none).of_text separable
  simpa [Phrase.print, Phrase.arguments, Gap.none] using listed

theorem of_text_before (rest : List Char) : Arguments.ofText kind (group.print ++ rest) =
    match skipBlanks rest with
    | [] => group.arguments
    | c :: more => group.arguments.breakOff ⟨.unexpected, c :: more⟩ := by
  obtain ⟨bound, read⟩ := group.read separable rest
  have shown := Gap.none.skip _ (group.shown rest)
  rw [Gap.none, List.nil_append, group.print_open, List.cons_append] at shown
  rw [Arguments.ofText, group.print_open, List.cons_append, shown]
  cases following : skipBlanks rest with
  | nil => simp [read, following]
  | cons c more => simp [read, following]

theorem extent (rest : List Char) : Extent kind group.print rest where
  group := take_enclosed group.print rest (group.enclosed separable)
  scanned scanner shape := by
    have taken := take_enclosed group.print rest (group.enclosed separable)
    have some : group.print ≠ [] := by
      rw [group.print_open]
      exact List.cons_ne_nil _ _
    obtain ⟨moved, left⟩ := scanner.moved _ rest some shape
    rw [← shape] at taken
    exact ⟨_, (scanner.take_some_iff _ _ _).mpr ⟨rest, taken, rfl⟩, moved.place, left⟩
  read := ⟨group.inside, group.print_open, group.of_text separable ▸ group.read separable rest⟩
  ended ending := by rw [group.of_text_before separable, ending, group.of_text separable]
  followed c more following := by
    rw [group.of_text_before separable, following, group.of_text separable]

end Group

section Urls

variable [UrlLibrary]

namespace Alias

def begun (name target : Name kind) (gap between : Gap) (behind : List Char) : List Char :=
  name.text.toList ++ (gap.blanks ++ (target.text.toList ++ (between.blanks ++ behind)))

section Given

variable (avoids : kind.Avoids isLimit) (name target : Name kind) (gap between : Gap)
  (list rest : List Char) (some : name.text ≠ "") (named : target.text ≠ "") (apart : gap.blanks ≠ [])
  (enclosed : Enclosed list)

include avoids some named apart enclosed

theorem read_begun :
    let selector : Selector kind := ⟨target, String.ofList list⟩
    read kind (begun name target gap between (list ++ rest)) =
      if endsDeclaration (skipBlanks rest) then .ok (⟨name, .renamed selector⟩, rest)
      else if !startsBlank rest then .error ⟨.unexpected, rest⟩
      else
        match takeUrl (skipBlanks rest) with
        | .token url afterUrl => .ok (⟨name, .published selector url⟩, afterUrl)
        | _ => .error ⟨.unexpected, skipBlanks rest⟩ := by
  have spelled : (String.ofList list).toList = list := String.toList_ofList
  have given := read_group between (String.ofList list) (spelled.symm ▸ enclosed) rest
  rw [spelled] at given
  exact read_selected avoids name some gap apart target named _ _ rest
    (group_limits between list rest enclosed) given

theorem begun_selector (declaration : Alias kind) (left : List Char)
    (found : read kind (begun name target gap between (list ++ rest)) = .ok (declaration, left)) :
    declaration.name = name ∧ declaration.selector? = .some ⟨target, String.ofList list⟩ := by
  rw [read_begun avoids name target gap between list rest some named apart enclosed] at found
  split at found
  · cases found
    exact ⟨rfl, rfl⟩
  · split at found
    · cases found
    · split at found
      · cases found
        exact ⟨rfl, rfl⟩
      · cases found

theorem begun_renamed (parted : Parted rest) :
    read kind (begun name target gap between (list ++ rest)) =
      .ok (⟨name, .renamed ⟨target, String.ofList list⟩⟩, rest) := by
  rw [read_begun avoids name target gap between list rest some named apart enclosed]
  exact if_pos (ends_parted rest parted)

theorem begun_published [UrlLibrary.NeverBegins ','] (url : Url) (unbroken : url.Unbroken) (wide : Gap)
    (wider : wide.blanks ≠ []) (after : List Char) (ends : after = [] ∨ startsBlank after = true)
    (placed : rest = wide.blanks ++ (url.text.toList ++ after)) :
    read kind (begun name target gap between (list ++ rest)) =
      .ok (⟨name, .published ⟨target, String.ofList list⟩ url⟩, after) := by
  obtain ⟨skipped, goesOn⟩ := url_stands wide url unbroken after
  have blank := wide.starts wider (url.text.toList ++ after)
  rw [read_begun avoids name target gap between list rest some named apart enclosed, placed, skipped,
    goesOn, blank, take_url_written url unbroken after ends]
  rfl

end Given

end Alias

theorem list_extent (separable : kind.Separable) (list rest : List Char)
    (whole : (Arguments.ofText kind list).Whole) (opens : list.head? = some '(')
    (closes : list.getLast? = some ')') :
    Extent kind list rest ∧
      ∀ (name target : Name kind) (gap between : Gap), name.text ≠ "" → target.text ≠ "" →
        gap.blanks ≠ [] →
        let selector : Selector kind := ⟨target, String.ofList list⟩
        let text := Alias.begun name target gap between (list ++ rest)
        (∀ declaration left, Alias.read kind text = .ok (declaration, left) →
          declaration.name = name ∧ declaration.selector? = some selector) ∧
        (Parted rest → Alias.read kind text = .ok (⟨name, .renamed selector⟩, rest)) ∧
        (UrlLibrary.NeverBegins ',' → ∀ (url : Url) (wide : Gap) (after : List Char), url.Unbroken →
          wide.blanks ≠ [] → (after = [] ∨ startsBlank after = true) →
          rest = wide.blanks ++ (url.text.toList ++ after) →
          Alias.read kind text = .ok (⟨name, .published selector url⟩, after)) := by
  obtain ⟨phrase, rfl⟩ := (Phrase.whole_iff separable list).mp whole
  obtain ⟨group, rfl⟩ := phrase.listed_alone opens closes
  have printed : (Phrase.listed .none group .none).print = group.print := by
    simp [Phrase.print, Gap.none]
  rw [printed]
  refine ⟨group.extent separable rest, fun name target gap between some named apart => ?_⟩
  have enclosed := group.enclosed separable
  have avoids := separable.avoids
  refine ⟨?_, ?_, ?_⟩
  · exact Alias.begun_selector avoids name target gap between _ rest some named apart enclosed
  · exact Alias.begun_renamed avoids name target gap between _ rest some named apart enclosed
  · intro _ url wide after unbroken wider ends placed
    exact Alias.begun_published avoids name target gap between _ rest some named apart enclosed url
      unbroken wide wider after ends placed

end Urls

section Sample

attribute [local instance] UrlLibrary.sample

-- Neither the parenthesis in the string nor those in the url that follows count.
theorem list_extent_quoted :
    let list := "(b (\")\"), $home)".toList
    let rest := " a://p?)),q ,c".toList
    let x : Name .plugin := ⟨"x", by decide⟩
    let t : Name .plugin := ⟨"t", by decide⟩
    NameKind.plugin.Separable ∧ (Arguments.ofText .plugin list).Whole ∧
      list.head? = some '(' ∧ list.getLast? = some ')' ∧ x.text ≠ "" ∧ t.text ≠ "" ∧
      takeGroup (list ++ rest) = .token "(b (\")\"), $home)" rest ∧
      Alias.read .plugin ("x t".toList ++ (list ++ rest)) =
        .ok (⟨x, .published ⟨t, "(b (\")\"), $home)"⟩ ⟨"a://p?)),q", by decide⟩⟩, " ,c".toList) := by
  intro list rest x t
  let called : Term .plugin := .call ⟨"b", by decide⟩ (by decide) ⟨[' '], rfl⟩
    (.filled (.last .none (.word (.text [.plain ')' (by decide)])) .none))
  let phrase : Phrase .plugin := .listed .none (.filled (.more .none called .none
    (.last ⟨[' '], rfl⟩ (.word (.reference ⟨"home", by decide⟩)) .none))) .none
  have whole := (Phrase.whole_iff plugin_separable list).mpr ⟨phrase, rfl⟩
  obtain ⟨extent, given⟩ := list_extent plugin_separable list rest whole rfl rfl
  have placed := (given x t ⟨[' '], rfl⟩ .none (by decide) (by decide) (by decide)).2.2 inferInstance
    ⟨"a://p?)),q", by decide⟩ ⟨[' '], rfl⟩ " ,c".toList (by decide) (by decide) (.inr rfl) rfl
  have written : Alias.begun x t ⟨[' '], rfl⟩ .none (list ++ rest) = "x t".toList ++ (list ++ rest) := by
    decide
  rw [written, String.ofList_toList] at placed
  exact ⟨plugin_separable, whole, rfl, rfl, by decide, by decide, extent.group, placed⟩

end Sample

end PluginNaming
