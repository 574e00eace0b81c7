import PluginNaming.Proofs.InfoSet.RoundTrip
import PluginNaming.Proofs.Listed.Grammar

set_option autoImplicit false

namespace PluginNaming

open Text

variable {kind : NameKind}

def isDivider (c : Char) : Bool :=
  isBlank c || c == ','

theorem divider_mark (c : Char) (unmarked : isMark c = false) : isDivider c = false := by
  simp only [isMark, isDivider, Bool.or_eq_false_iff] at unmarked ⊢
  exact unmarked.1.1.1

theorem NameKind.Separable.divided (separable : kind.Separable) : kind.Avoids isDivider where
  initial c initial := divider_mark c (separable.first c initial)
  part c part := divider_mark c (separable.part c part)

section Names

variable (avoids : kind.Avoids isDivider)

include avoids

theorem name_visible (name : Name kind) (some : name.text ≠ "") (rest : List Char) :
    Stops isBlank (name.text.toList ++ rest) := by
  obtain ⟨c, more, shape, initial, _⟩ := name_head name some
  have inside := avoids.initial c initial
  rw [isDivider, Bool.or_eq_false_iff] at inside
  rw [shape]
  exact stops_cons _ c _ inside.1

theorem parted_stops (rest : List Char) (parted : Parted rest) : Stops kind.part rest := by
  refine avoids_stops avoids rest ?_
  intro c first
  by_cases blank : isBlank c = true
  · simp [isDivider, blank]
  · cases rest with
    | nil => cases first
    | cons d more =>
        cases first
        have comma := parted c (by simp [skipBlanks, blank])
        simp [isDivider, comma]

end Names

namespace InfoSet

theorem comma_within (head tail front : List Char) (gap : Gap) (c : Char) (member : c ∈ tail)
    (shown : isDivider c = false) (same : head ++ tail = front ++ ',' :: gap.blanks) :
    ∃ left, tail = left ++ ',' :: gap.blanks := by
  rcases List.append_eq_append_iff.mp same with ⟨left, _, found⟩ | ⟨middle, _, found⟩
  · exact ⟨left, found⟩
  · have inside : c ∈ ',' :: gap.blanks := found ▸ List.mem_append_right middle member
    rcases List.mem_cons.mp inside with rfl | blank
    · cases shown
    · simp [isDivider, List.all_eq_true.mp gap.blank c blank] at shown

end InfoSet

section Urls

variable [UrlLibrary]

namespace Info

inductive Spelled : List Char → Info kind → List Char → Prop where
  | apart (url : Url) (unbroken : url.Unbroken) (gap : Gap) (wide : gap.blanks ≠ []) (name : Name kind)
      (some : name.text ≠ "") (rest : List Char) :
      Spelled (url.text.toList ++ (gap.blanks ++ (name.text.toList ++ rest))) ⟨url, name⟩ rest

theorem spelled_begins (text rest : List Char) (info : Info kind) (spelled : Spelled text info rest) :
    ∃ c more, text = c :: more ∧ isBlank c = false := by
  obtain ⟨url, unbroken, gap, wide, name, some⟩ := spelled
  obtain ⟨c, more, shape, visible⟩ := url.head unbroken
  rw [shape]
  exact ⟨c, _, rfl, visible⟩

theorem spelled_grows (text : List Char) (info : Info kind) (rest more : List Char)
    (spelled : Spelled text info rest) : Spelled (text ++ more) info (rest ++ more) := by
  obtain ⟨url, unbroken, gap, wide, name, some⟩ := spelled
  simpa using Spelled.apart url unbroken gap wide name some (rest ++ more)

theorem read_spelling (text rest : List Char) (info : Info kind)
    (found : read kind text = .ok (info, rest)) : Spelled text info rest := by
  simp only [read] at found
  split at found
  · cases found
  · split at found
    · rename_i url afterUrl taken
      obtain ⟨shape, _⟩ := url_spelled _ _ _ taken
      split at found
      · rename_i blank
        split at found
        · rename_i name left named
          cases found
          obtain ⟨some, behind⟩ := name_taken _ _ _ named
          rw [shape, ← Gap.before_append afterUrl, behind]
          exact .apart url (url_taken _ _ _ taken) _ (Gap.before_apart afterUrl blank) name some rest
        · cases found
        · cases found
      · cases found
    · cases found

theorem entry_sound (text : List Char) (info : Info kind) (left : List Char)
    (found : (entry kind).read text = .ok (info, left)) :
    ∃ rest, Spelled text info rest ∧ skipBlanks rest = skipBlanks left :=
  ⟨left, read_spelling text left info found, rfl⟩

theorem spelled_named (text rest : List Char) (info : Info kind) (spelled : Spelled text info rest) :
    ∃ front, info.name.text ≠ "" ∧ text = front ++ (info.name.text.toList ++ rest) := by
  obtain ⟨url, unbroken, gap, wide, name, some⟩ := spelled
  exact ⟨url.text.toList ++ gap.blanks, some, (List.append_assoc _ _ _).symm⟩

section Complete

variable (avoids : kind.Avoids isDivider)

include avoids

theorem spelling_read (text rest : List Char) (info : Info kind) (spelled : Spelled text info rest)
    (stops : Stops kind.part rest) : read kind text = .ok (info, rest) := by
  obtain ⟨url, unbroken, gap, wide, name, some⟩ := spelled
  have blank := gap.starts wide (name.text.toList ++ rest)
  have taken := take_url_written url unbroken (gap.blanks ++ (name.text.toList ++ rest)) (.inr blank)
  have skipped := gap.skip _ (name_visible avoids name some rest)
  have named := take_name_written name rest some stops
  have begun : url.text.toList ++ (gap.blanks ++ (name.text.toList ++ rest)) ≠ [] :=
    List.append_ne_nil_of_left_ne_nil unbroken.some _
  rw [read, if_neg begun]
  simp only [taken, blank, ↓reduceIte, skipped, named]

theorem entry_follows : (entry kind).Follows Spelled where
  visible text info rest spelled := spelled_begins text rest info spelled
  sound := entry_sound
  complete text info rest spelled parted :=
    ⟨rest, spelling_read avoids text rest info spelled (parted_stops avoids rest parted), rfl⟩

theorem parse_spelled_iff (text : String) (info : Info kind) :
    parse kind text = .ok info ↔ Spelled text.toList info [] := by
  unfold parse
  constructor
  · intro found
    split at found
    · cases found
    · rename_i rest read
      split at found
      · rename_i ended
        cases found
        exact ended ▸ read_spelling _ _ _ read
      · cases found
  · intro spelled
    rw [spelling_read avoids _ _ _ spelled (stops_nil _)]
    rfl

end Complete

end Info

namespace InfoSet

inductive Misplaced (kind : NameKind) : List Char → Prop where
  | leading (before : Gap) (rest : List Char) : Misplaced kind (before.blanks ++ ',' :: rest)
  | doubled (front : List Char) (infos : List (Info kind)) (listing : Listing Info.Spelled front infos)
      (between : Gap) (rest : List Char) :
      Misplaced kind (front ++ ',' :: (between.blanks ++ ',' :: rest))
  | trailing (front : List Char) (after : Gap) : Misplaced kind (front ++ ',' :: after.blanks)

section Commas

variable [UrlLibrary.NeverBegins ',']

theorem series_begins (text : List Char) (infos : List (Info kind))
    (series : Series Info.Spelled text infos) :
    ∃ c more, text = c :: more ∧ isBlank c = false ∧ c ≠ ',' := by
  have begins (text rest : List Char) (info : Info kind) (spelled : Info.Spelled text info rest) :
      ∃ c more, text = c :: more ∧ isBlank c = false ∧ c ≠ ',' := by
    obtain ⟨url, unbroken, gap, wide, name, some⟩ := spelled
    obtain ⟨c, more, shape, visible⟩ := url.head unbroken
    exact ⟨c, _, by rw [shape, List.cons_append], visible, url.head_apart ',' c more shape⟩
  cases series with
  | last _ info after only => exact begins text _ info only
  | more _ rest info others after before first _ => exact begins text _ info first

theorem series_ends (avoids : kind.Avoids isDivider) (text : List Char) (infos : List (Info kind))
    (series : Series Info.Spelled text infos) (front : List Char) (gap : Gap) :
    text ≠ front ++ ',' :: gap.blanks := by
  induction series generalizing front with
  | last text info after only =>
      intro same
      obtain ⟨before, some, shape⟩ := Info.spelled_named text _ info only
      obtain ⟨c, more, begun, _⟩ := name_head info.name some
      have inside : c ∈ info.name.text.toList := begun ▸ List.mem_cons_self
      obtain ⟨left, found⟩ := comma_within before _ front gap c (List.mem_append_left _ inside)
        (name_avoids avoids info.name c inside) (shape.symm.trans same)
      have comma : ',' ∈ info.name.text.toList ++ after.blanks := by simp [found]
      rcases List.mem_append.mp comma with named | blank
      · cases name_avoids avoids info.name ',' named
      · cases List.all_eq_true.mp after.blank ',' blank
  | more text rest info others after before first following hypothesis =>
      intro same
      obtain ⟨head, _, shape⟩ := Info.spelled_named text _ info first
      obtain ⟨c, more, begun, visible, comma⟩ := series_begins rest others following
      have shown : isDivider c = false := by simp [isDivider, visible, comma]
      have parts : text = (head ++ (info.name.text.toList ++ (after.blanks ++ ',' :: before.blanks))) ++
          rest := by simp [shape]
      obtain ⟨left, found⟩ := comma_within _ rest front gap c (begun ▸ List.mem_cons_self) shown
        (parts.symm.trans same)
      exact hypothesis left found

theorem leading_unlisted (avoids : kind.Avoids isDivider) (before : Gap) (rest : List Char)
    (infos : List (Info kind)) : ¬ Listing Info.Spelled (before.blanks ++ ',' :: rest) infos := by
  intro listing
  have series := listing_series (Info.entry kind) Info.Spelled (Info.entry_follows avoids) before _ infos
    (stops_cons _ ',' rest (by decide)) (List.cons_ne_nil ',' rest) listing
  obtain ⟨c, more, shape, _, comma⟩ := series_begins _ infos series
  exact comma (List.cons.inj shape).1.symm

theorem misplaced_unlisted (avoids : kind.Avoids isDivider) (text : List Char)
    (misplaced : Misplaced kind text) (infos : List (Info kind)) : ¬ Listing Info.Spelled text infos := by
  have follows := Info.entry_follows avoids
  cases misplaced with
  | leading before rest => exact leading_unlisted avoids before rest infos
  | doubled front others listing between rest =>
      intro whole
      cases listing with
      | blank gap => exact leading_unlisted avoids gap _ infos whole
      | filled before front _ series =>
          have shown := series_shown _ _ follows front others series (',' :: (between.blanks ++ ',' :: rest))
          rw [List.append_assoc] at whole
          have all := listing_series _ _ follows before _ infos shown (by simp) whole
          obtain ⟨gap, left, more, same, following⟩ :=
            series_after _ _ follows Info.spelled_grows front _ others infos series all
          exact leading_unlisted avoids between rest more (same ▸ .filled gap left more following)
  | trailing front after =>
      intro whole
      generalize shape : front ++ ',' :: after.blanks = text at whole
      cases whole with
      | blank gap =>
          have comma : ',' ∈ gap.blanks := by simp [← shape]
          cases List.all_eq_true.mp gap.blank ',' comma
      | filled before text _ series =>
          obtain ⟨c, more, begun, visible, comma⟩ := series_begins text infos series
          have shown : isDivider c = false := by simp [isDivider, visible, comma]
          obtain ⟨left, found⟩ := comma_within before.blanks text front after c
            (begun ▸ List.mem_cons_self) shown shape.symm
          exact series_ends avoids text infos series left after found

end Commas

theorem parse_spelled_exact (avoids : kind.Avoids isDivider) (text : String) :
    (∀ set, parse kind text = .ok set ↔
        ∃ list, Listing Info.Spelled text.toList list ∧ ofList list = .ok set) ∧
      (∀ list other : List (Info kind), Listing Info.Spelled text.toList list →
        Listing Info.Spelled text.toList other → list = other) ∧
      (UrlLibrary.NeverBegins ',' → Misplaced kind text.toList → ∀ set, parse kind text ≠ .ok set) ∧
      ∀ info : Info kind, Info.parse kind text = .ok info ↔ Info.Spelled text.toList info [] := by
  have follows := Info.entry_follows avoids
  have accepts : ∀ set, parse kind text = .ok set ↔
      ∃ list, Listing Info.Spelled text.toList list ∧ ofList list = .ok set := by
    intro set
    refine (bind_ok_iff _ _ _).trans (exists_congr fun list => and_congr_left fun _ => ?_)
    exact listing_iff (Info.entry kind) Info.Spelled follows "info" text list
  refine ⟨accepts, ?_, ?_, Info.parse_spelled_iff avoids text⟩
  · exact listing_unique (Info.entry kind) Info.Spelled follows text
  · intro apart misplaced set parsed
    obtain ⟨list, listing, _⟩ := (accepts set).mp parsed
    exact misplaced_unlisted avoids text.toList misplaced list listing

end InfoSet

end Urls

namespace InfoSet

attribute [local instance] UrlLibrary.sample

theorem parse_spelled_commas :
    let infos : List (Info .plugin) := [⟨⟨"d://e,f", by decide⟩, ⟨"left", by decide⟩⟩,
      ⟨⟨"c://q", by decide⟩, ⟨"right", by decide⟩⟩]
    NameKind.plugin.Avoids isDivider ∧
      (∃ set, ofList infos = .ok set ∧ parse .plugin " d://e,f left ,c://q right" = .ok set) ∧
      ∀ set, parse .plugin " d://e,f left , ,c://q right" ≠ .ok set := by
  intro infos
  let left : Name .plugin := ⟨"left", by decide⟩
  let right : Name .plugin := ⟨"right", by decide⟩
  let first : Url := ⟨"d://e,f", by decide⟩
  let second : Url := ⟨"c://q", by decide⟩
  let space : Gap := ⟨[' '], rfl⟩
  have avoids := plugin_separable.divided
  have one := fun rest => Info.Spelled.apart first (by decide) space (by decide) left (by decide) rest
  have two := Info.Spelled.apart second (by decide) space (by decide) right (by decide) []
  have apart : " d://e,f left ,c://q right".toList = space.blanks ++ (first.text.toList ++
      (space.blanks ++ (left.text.toList ++ (space.blanks ++ ',' :: (Gap.none.blanks ++
        (second.text.toList ++ (space.blanks ++ (right.text.toList ++ [])))))))) := by decide
  have listing : Listing Info.Spelled " d://e,f left ,c://q right".toList infos :=
    apart ▸ .filled space _ _ (.more _ _ _ _ space .none (one _) (.last _ _ .none two))
  have twice : " d://e,f left , ,c://q right".toList = (space.blanks ++ (first.text.toList ++
      (space.blanks ++ (left.text.toList ++ space.blanks)))) ++
        ',' :: (space.blanks ++ ',' :: "c://q right".toList) := by decide
  have doubled : Misplaced .plugin " d://e,f left , ,c://q right".toList :=
    twice ▸ .doubled _ _ (.filled space _ _ (.last _ _ space (one _))) space _
  obtain ⟨set, built, _⟩ := of_list_succeeds infos ⟨by decide, by decide⟩
  refine ⟨avoids, ⟨set, built, ?_⟩, ?_⟩
  · exact ((parse_spelled_exact avoids _).1 set).mpr ⟨infos, listing, built⟩
  · exact (parse_spelled_exact avoids _).2.2.1 inferInstance doubled

end InfoSet

end PluginNaming
