import PluginNaming.Proofs.AliasSet.Agreement
import PluginNaming.Proofs.Listed.Grammar
import PluginNaming.Proofs.Selector.Enclosed
import PluginNaming.Proofs.Url

/- declaration := name | name blank+ name [blank* group] | name blank+ name [blank* group] blank+ url

   A group is any text in parentheses that are balanced outside of strings, and a url goes on up to a
   blank or the end. -/

set_option autoImplicit false

namespace PluginNaming

open Text

variable {kind : NameKind}

def isLimit (c : Char) : Bool :=
  isBlank c || c == ',' || c == '('

theorem limit_mark (c : Char) (unmarked : isMark c = false) : isLimit c = false := by
  simp only [isMark, isLimit, Bool.or_eq_false_iff] at unmarked ⊢
  exact unmarked.1.1

theorem NameKind.Separable.avoids (separable : kind.Separable) : kind.Avoids isLimit where
  initial c initial := limit_mark c (separable.first c initial)
  part c part := limit_mark c (separable.part c part)

abbrev Limits (rest : List Char) : Prop :=
  Stops (fun c => !isLimit c) rest

theorem limits_cons (c : Char) (rest : List Char) (limit : isLimit c = true) : Limits (c :: rest) :=
  stops_cons _ c rest (by rw [limit]; rfl)

theorem limits_blanks (gap : Gap) : Limits gap.blanks := by
  intro c first
  have blank := List.all_eq_true.mp gap.blank c (List.mem_of_mem_head? first)
  simp [isLimit, blank]

theorem limits_gap (gap : Gap) (rest : List Char) (limits : Limits rest) :
    Limits (gap.blanks ++ rest) :=
  stops_append _ _ _ (limits_blanks gap) limits

theorem limits_apart (gap : Gap) (rest : List Char) (apart : gap.blanks ≠ []) :
    Limits (gap.blanks ++ rest) := by
  intro c first
  rw [List.head?_append_of_ne_nil _ apart] at first
  exact limits_blanks gap c first

theorem limits_parted (rest : List Char) (parted : Parted rest) : Limits rest := by
  rw [← Gap.before_append rest]
  refine limits_gap _ _ fun c first => ?_
  rw [parted c first]
  rfl

section Names

variable (avoids : kind.Avoids isLimit)

include avoids

theorem name_begins (name : Name kind) (some : name.text ≠ "") :
    ∃ c more, name.text.toList = c :: more ∧ isBlank c = false ∧ c ≠ ',' := by
  obtain ⟨c, more, shape, initial, _⟩ := name_head name some
  have inside := avoids.initial c initial
  simp only [isLimit, Bool.or_eq_false_iff, beq_eq_false_iff_ne] at inside
  exact ⟨c, more, shape, inside.1.1, inside.1.2⟩

end Names

namespace Alias

inductive Grouped : List Char → String → List Char → Prop where
  | none (rest : List Char) : Grouped rest "" rest
  | group (gap : Gap) (text : String) (enclosed : Enclosed text.toList) (rest : List Char) :
      Grouped (gap.blanks ++ (text.toList ++ rest)) text rest

theorem name_required (text rest : List Char) (name : Name kind)
    (found : requireName kind text = .ok (name, rest)) :
    name.text ≠ "" ∧ text = name.text.toList ++ rest := by
  unfold requireName at found
  split at found
  · rename_i taken
    cases found
    exact name_taken _ _ _ taken
  · cases found
  · split at found <;> cases found

theorem parameters_grouped (text rest : List Char) (parameters : String)
    (found : readParameters text = .ok (parameters, rest)) : Grouped text parameters rest := by
  unfold readParameters at found
  split at found
  · rename_i taken
    cases found
    obtain ⟨enclosed, shape⟩ := group_taken _ _ _ taken
    rw [← Gap.before_append text, shape]
    exact .group _ _ enclosed _
  · cases found
    exact .none _
  · cases found

theorem ends_parted (rest : List Char) (parted : Parted rest) :
    endsDeclaration (skipBlanks rest) = true := by
  cases shape : skipBlanks rest with
  | nil => rfl
  | cons c more =>
      have comma := parted c (by rw [shape]; rfl)
      simp [endsDeclaration, comma]

theorem group_limits (gap : Gap) (group rest : List Char) (enclosed : Enclosed group) :
    Limits (gap.blanks ++ (group ++ rest)) := by
  obtain ⟨inner, _, shape⟩ := enclosed
  refine limits_gap gap _ ?_
  rw [shape]
  exact limits_cons '(' _ (by decide)

theorem grouped_limits (tail rest : List Char) (parameters : String)
    (grouped : Grouped tail parameters rest) (limits : Limits rest) : Limits tail := by
  cases grouped with
  | none => exact limits
  | group gap _ enclosed _ => exact group_limits gap _ rest enclosed

theorem read_group (gap : Gap) (parameters : String) (enclosed : Enclosed parameters.toList)
    (rest : List Char) :
    readParameters (gap.blanks ++ (parameters.toList ++ rest)) = .ok (parameters, rest) := by
  have taken := take_enclosed parameters.toList rest enclosed
  obtain ⟨inner, _, shape⟩ := enclosed
  have shown : Stops isBlank (parameters.toList ++ rest) := by
    rw [shape]
    exact stops_cons _ _ _ (by decide)
  rw [readParameters, gap.skip _ shown, taken, String.ofList_toList]

theorem read_grouped (tail rest : List Char) (parameters : String)
    (grouped : Grouped tail parameters rest) (alone : takeGroup (skipBlanks rest) = .absent) :
    readParameters tail = .ok (parameters, rest) := by
  cases grouped with
  | none => rw [readParameters, alone]
  | group gap _ enclosed _ => exact read_group gap parameters enclosed rest

theorem require_spelled (name : Name kind) (some : name.text ≠ "") (rest : List Char)
    (stops : Stops kind.part rest) :
    requireName kind (name.text.toList ++ rest) = .ok (name, rest) := by
  rw [requireName, take_name_written name rest some stops]

end Alias

section Urls

variable [UrlLibrary]

namespace Alias

inductive Declared : List Char → Alias kind → List Char → Prop where
  | itself (name : Name kind) (some : name.text ≠ "") (rest : List Char) :
      Declared (name.text.toList ++ rest) ⟨name, .itself⟩ rest
  | renamed (name : Name kind) (some : name.text ≠ "") (gap : Gap) (apart : gap.blanks ≠ [])
      (target : Name kind) (named : target.text ≠ "") (tail : List Char) (parameters : String)
      (rest : List Char) (grouped : Grouped tail parameters rest) :
      Declared (name.text.toList ++ (gap.blanks ++ (target.text.toList ++ tail)))
        ⟨name, .renamed ⟨target, parameters⟩⟩ rest
  | published (name : Name kind) (some : name.text ≠ "") (gap : Gap) (apart : gap.blanks ≠ [])
      (target : Name kind) (named : target.text ≠ "") (tail : List Char) (parameters : String)
      (between : Gap) (parted : between.blanks ≠ []) (url : Url) (unbroken : url.Unbroken)
      (rest : List Char)
      (grouped : Grouped tail parameters (between.blanks ++ (url.text.toList ++ rest)))
      (ends : rest = [] ∨ startsBlank rest = true) :
      Declared (name.text.toList ++ (gap.blanks ++ (target.text.toList ++ tail)))
        ⟨name, .published ⟨target, parameters⟩ url⟩ rest

theorem read_declared (text left : List Char) (declaration : Alias kind)
    (found : read kind text = .ok (declaration, left)) :
    ∃ rest, Declared text declaration rest ∧ skipBlanks rest = skipBlanks left := by
  simp only [read] at found
  split at found
  · cases found
  · rename_i name afterName required
    obtain ⟨some, shape⟩ := name_required _ _ _ required
    split at found
    · cases found
      refine ⟨afterName, shape ▸ .itself name some afterName, ?_⟩
      exact (Gap.none.skip _ (stops_skip afterName)).symm
    · split at found
      · cases found
      · rename_i apart
        have wide := Gap.before_apart afterName (by simpa using apart)
        split at found
        · cases found
        · rename_i target afterTarget targetRequired
          obtain ⟨named, behind⟩ := name_required _ _ _ targetRequired
          split at found
          · cases found
          · rename_i parameters rest parametersRead
            have grouped := parameters_grouped _ _ _ parametersRead
            rw [shape, ← Gap.before_append afterName, behind]
            split at found
            · cases found
              exact ⟨left, .renamed name some _ wide target named _ _ _ grouped, rfl⟩
            · split at found
              · cases found
              · rename_i parted
                have between := Gap.before_apart rest (by simpa using parted)
                split at found
                · rename_i url afterUrl taken
                  cases found
                  obtain ⟨spelled, ends⟩ := url_spelled _ _ _ taken
                  rw [← Gap.before_append rest, spelled] at grouped
                  exact ⟨left, .published name some _ wide target named _ _ _ between url
                    (url_taken _ _ _ taken) left grouped ends, rfl⟩
                · cases found

section Complete

theorem url_stands [UrlLibrary.NeverBegins ','] (gap : Gap) (url : Url) (unbroken : url.Unbroken)
    (rest : List Char) :
    skipBlanks (gap.blanks ++ (url.text.toList ++ rest)) = url.text.toList ++ rest ∧
      endsDeclaration (url.text.toList ++ rest) = false := by
  obtain ⟨c, more, shape, visible⟩ := url.head unbroken
  rw [shape]
  refine ⟨gap.skip _ (stops_cons _ _ _ visible), ?_⟩
  simpa [endsDeclaration] using url.head_apart ',' c more shape

variable (avoids : kind.Avoids isLimit)

include avoids

theorem read_selected (name : Name kind) (some : name.text ≠ "") (gap : Gap) (apart : gap.blanks ≠ [])
    (target : Name kind) (named : target.text ≠ "") (tail : List Char) (parameters : String)
    (rest : List Char) (limits : Limits tail) (given : readParameters tail = .ok (parameters, rest)) :
    read kind (name.text.toList ++ (gap.blanks ++ (target.text.toList ++ tail))) =
      if endsDeclaration (skipBlanks rest) then
        .ok ({ name, target := .renamed ⟨target, parameters⟩ }, rest)
      else if !startsBlank rest then .error ⟨.unexpected, rest⟩
      else
        match takeUrl (skipBlanks rest) with
        | .token url afterUrl => .ok ({ name, target := .published ⟨target, parameters⟩ url }, afterUrl)
        | _ => .error ⟨.unexpected, skipBlanks rest⟩ := by
  obtain ⟨c, more, shape, visible, comma⟩ := name_begins avoids target named
  have blank := gap.starts apart (target.text.toList ++ tail)
  have declared := require_spelled name some (gap.blanks ++ (target.text.toList ++ tail))
    (avoids_stops avoids _ (limits_apart gap _ apart))
  have required := require_spelled target named tail
    (avoids_stops avoids tail limits)
  have skipped : skipBlanks (gap.blanks ++ (target.text.toList ++ tail)) =
      target.text.toList ++ tail := by
    refine gap.skip _ ?_
    rw [shape]
    exact stops_cons _ _ _ visible
  have goesOn : endsDeclaration (target.text.toList ++ tail) = false := by
    rw [shape]
    simpa [endsDeclaration] using comma
  simp only [read, declared, skipped, goesOn, blank, required, given]
  rfl

theorem declared_visible (text rest : List Char) (declaration : Alias kind)
    (declared : Declared text declaration rest) : ∃ c more, text = c :: more ∧ isBlank c = false := by
  obtain ⟨name, some, behind, written⟩ :
      ∃ name : Name kind, name.text ≠ "" ∧ ∃ behind, text = name.text.toList ++ behind := by
    cases declared with
    | itself name some => exact ⟨name, some, _, rfl⟩
    | renamed name some => exact ⟨name, some, _, rfl⟩
    | published name some => exact ⟨name, some, _, rfl⟩
  obtain ⟨c, more, shape, visible, _⟩ := name_begins avoids name some
  exact ⟨c, more ++ behind, by rw [written, shape, List.cons_append], visible⟩

variable [UrlLibrary.NeverBegins ','] [UrlLibrary.NeverBegins '(']

theorem declared_read (text rest : List Char) (declaration : Alias kind)
    (declared : Declared text declaration rest) (parted : Parted rest) :
    ∃ left, read kind text = .ok (declaration, left) ∧ skipBlanks left = skipBlanks rest := by
  have ended := ends_parted rest parted
  cases declared with
  | itself name some _ =>
      have required := require_spelled name some rest
        (avoids_stops avoids rest (limits_parted rest parted))
      refine ⟨skipBlanks rest, ?_, Gap.none.skip _ (stops_skip rest)⟩
      simp only [read, required, ended, ↓reduceIte]
  | renamed name some gap apart target named tail parameters _ grouped =>
      have alone : takeGroup (skipBlanks rest) = .absent := by
        refine group_absent _ fun inner opened => ?_
        rw [opened] at ended
        cases ended
      have limits := grouped_limits tail rest parameters grouped (limits_parted rest parted)
      refine ⟨rest, ?_, rfl⟩
      rw [read_selected avoids name some gap apart target named tail parameters rest limits
        (read_grouped tail rest parameters grouped alone), if_pos ended]
  | published name some gap apart target named tail parameters between wide url unbroken _ grouped ends =>
      obtain ⟨skipped, goesOn⟩ := url_stands between url unbroken rest
      have alone : takeGroup (skipBlanks (between.blanks ++ (url.text.toList ++ rest))) = .absent := by
        obtain ⟨c, more, shape, _⟩ := url.head unbroken
        refine group_absent _ fun inner opened => ?_
        rw [skipped, shape] at opened
        exact url.head_apart '(' c more shape (List.cons.inj opened).1
      have limits := grouped_limits tail _ parameters grouped
        (limits_apart between (url.text.toList ++ rest) wide)
      refine ⟨rest, ?_, rfl⟩
      rw [read_selected avoids name some gap apart target named tail parameters _ limits
        (read_grouped tail _ parameters grouped alone), skipped]
      simp only [goesOn, between.starts wide, take_url_written url unbroken rest ends]
      rfl

theorem entry_follows : (entry kind).Follows Declared where
  visible text declaration rest declared := declared_visible avoids text rest declaration declared
  sound text declaration left found := read_declared text left declaration found
  complete text declaration rest declared parted :=
    declared_read avoids text rest declaration declared parted

theorem parse_iff (text : String) (declaration : Alias kind) :
    parse kind text = .ok declaration ↔ ∃ (before after : Gap) (written : List Char),
      text.toList = before.blanks ++ written ∧ Declared written declaration after.blanks := by
  unfold parse
  constructor
  · intro found
    split at found
    · cases found
    · rename_i left read
      split at found
      · rename_i ended
        cases found
        obtain ⟨rest, declared, same⟩ := read_declared _ _ _ read
        exact ⟨.before text.toList, ⟨rest, all_blank rest (same.trans ended)⟩, _,
          (Gap.before_append text.toList).symm, declared⟩
      · cases found
  · rintro ⟨before, after, written, shape, declared⟩
    obtain ⟨c, more, begun, visible⟩ := declared_visible avoids _ _ _ declared
    obtain ⟨left, read, same⟩ := declared_read avoids _ _ _ declared (parted_end after)
    have shown : Stops isBlank written := begun ▸ stops_cons _ c more visible
    rw [shape, before.skip written shown, read]
    exact if_pos (same.trans after.skip_all)

end Complete

end Alias

namespace AliasSet

theorem parse_declared_exact [UrlLibrary.NeverBegins ','] [UrlLibrary.NeverBegins '(']
    (avoids : kind.Avoids isLimit) (text : String) :
    (∀ set, parse kind text = .ok set ↔
        ∃ list, Listing Alias.Declared text.toList list ∧ ofList list = .ok set) ∧
      (∀ list other : List (Alias kind), Listing Alias.Declared text.toList list →
        Listing Alias.Declared text.toList other → list = other) ∧
      ∀ declaration : Alias kind, Alias.parse kind text = .ok declaration ↔
        ∃ (before after : Gap) (written : List Char), text.toList = before.blanks ++ written ∧
          Alias.Declared written declaration after.blanks := by
  have follows := Alias.entry_follows avoids
  refine ⟨fun set => ?_, ?_, Alias.parse_iff avoids text⟩
  · refine (bind_ok_iff _ _ _).trans (exists_congr fun list => and_congr_left fun _ => ?_)
    exact listing_iff (Alias.entry kind) Alias.Declared follows kind.label text list
  · exact listing_unique (Alias.entry kind) Alias.Declared follows text

end AliasSet

end Urls

namespace AliasSet

attribute [local instance] UrlLibrary.sample

theorem parse_declared_mixed :
    let text := "x b (\")\") a://p/q,r ,c"
    let list : List (Alias .plugin) := [⟨⟨"x", by decide⟩, .published ⟨⟨"b", by decide⟩, "(\")\")"⟩
      ⟨"a://p/q,r", by decide⟩⟩, ⟨⟨"c", by decide⟩, .itself⟩]
    NameKind.plugin.Avoids isLimit ∧ ∃ set, ofList list = .ok set ∧ parse .plugin text = .ok set := by
  intro text list
  let x : Name .plugin := ⟨"x", by decide⟩
  let b : Name .plugin := ⟨"b", by decide⟩
  let c : Name .plugin := ⟨"c", by decide⟩
  let url : Url := ⟨"a://p/q,r", by decide⟩
  let gap : Gap := ⟨[' '], rfl⟩
  let rest := gap.blanks ++ ',' :: (Gap.none.blanks ++ (c.text.toList ++ []))
  have grouped := Alias.Grouped.group gap "(\")\")"
    ⟨['"', ')', '"'], .quoted [.plain ')' (by decide)] [] .empty, rfl⟩
    (gap.blanks ++ (url.text.toList ++ rest))
  have first := Alias.Declared.published x (by decide) gap (by decide) b (by decide) _ _ gap (by decide)
    url (by decide) rest grouped (.inr rfl)
  have last := Alias.Declared.itself c (by decide) []
  have series := Series.more _ _ _ _ gap .none first (.last _ _ .none last)
  have spelled : text.toList = x.text.toList ++ (gap.blanks ++ (b.text.toList ++ (gap.blanks ++
      ("(\")\")".toList ++ (gap.blanks ++ (url.text.toList ++ rest)))))) := by decide
  have listing : Listing Alias.Declared text.toList list := spelled ▸ .filled .none _ _ series
  obtain ⟨set, built⟩ := of_list_ok list ⟨⟨by decide, by decide, by decide⟩, by decide⟩
  have avoids := plugin_separable.avoids
  exact ⟨avoids, set, built, ((parse_declared_exact avoids text).1 set).mpr ⟨list, listing, built⟩⟩

end AliasSet

end PluginNaming
