import PluginNaming.Proofs.InfoSet.Correspondence
import PluginNaming.Proofs.Listed
import PluginNaming.Proofs.Selector.Word
import PluginNaming.Proofs.Url

set_option autoImplicit false

namespace PluginNaming

open Text

section Urls

variable [UrlLibrary] {kind : NameKind}

namespace Info

theorem read_spelled (info : Info kind) (unbroken : info.url.Unbroken) (some : info.name.text ≠ "")
    (rest : List Char) (shown : Stops isBlank (info.name.text.toList ++ rest))
    (stops : Stops kind.part rest) : read kind (info.text.toList ++ rest) = .ok (info, rest) := by
  have shape : info.text.toList ++ rest =
      info.url.text.toList ++ ' ' :: (info.name.text.toList ++ rest) := by
    simp [text]
  have taken := take_url_written info.url unbroken (' ' :: (info.name.text.toList ++ rest)) (.inr rfl)
  have skipped : skipBlanks (' ' :: (info.name.text.toList ++ rest)) = info.name.text.toList ++ rest :=
    Gap.skip ⟨[' '], rfl⟩ _ shown
  have named := take_name_written info.name rest some stops
  have begun : info.url.text.toList ++ ' ' :: (info.name.text.toList ++ rest) ≠ [] := by simp
  have blank : startsBlank (' ' :: (info.name.text.toList ++ rest)) = true := rfl
  rw [shape, read, if_neg begun]
  simp only [taken, blank, ↓reduceIte, skipped, named]

theorem read_written (separable : kind.Separable) (least : 0 < kind.least) (info : Info kind)
    (unbroken : info.url.Unbroken) (rest : List Char) (stops : Stops kind.part rest) :
    read kind (info.text.toList ++ rest) = .ok (info, rest) :=
  info.read_spelled unbroken (name_some least info.name) rest
    (name_shown separable least info.name rest) stops

theorem read_named (text rest : List Char) (info : Info kind)
    (found : read kind text = .ok (info, rest)) : info.name.text ≠ "" := by
  simp only [read] at found
  split at found
  · cases found
  · split at found
    · split at found
      · split at found
        · rename_i taken
          cases found
          exact (name_taken _ _ _ taken).1
        · cases found
        · cases found
      · cases found
    · cases found

theorem read_unbroken (text rest : List Char) (info : Info kind)
    (found : read kind text = .ok (info, rest)) : info.url.Unbroken := by
  simp only [read] at found
  split at found
  · cases found
  · split at found
    · rename_i taken
      split at found
      · split at found
        · cases found
          exact url_taken _ _ _ taken
        · cases found
        · cases found
      · cases found
    · cases found

theorem parse_unbroken (text : String) (info : Info kind) (parsed : parse kind text = .ok info) :
    info.url.Unbroken := by
  unfold parse at parsed
  split at parsed
  · cases parsed
  · rename_i other rest found
    split at parsed
    · cases parsed
      exact read_unbroken _ _ _ found
    · cases parsed

theorem parse_text (separable : kind.Separable) (least : 0 < kind.least) (info : Info kind)
    (unbroken : info.url.Unbroken) : parse kind info.text = .ok info := by
  have read := info.read_written separable least unbroken [] (stops_nil _)
  rw [List.append_nil] at read
  rw [parse, read]
  rfl

def layout : Layout (Info kind) where
  write info := info.text.toList
  gap _ := .none

theorem found_of_spelled (info : Info kind) (unbroken : info.url.Unbroken) (some : info.name.text ≠ "")
    (shown : ∀ rest, Stops isBlank (info.name.text.toList ++ rest)) (comma : kind.part ',' = false) :
    layout.Found (entry kind) info where
  begun := by
    obtain ⟨c, more, shape, visible⟩ := info.url.head unbroken
    exact ⟨c, more ++ ' ' :: info.name.text.toList, by simp [layout, text, shape], visible⟩
  read rest ends := by
    refine ⟨rest, info.read_spelled unbroken some rest (shown rest) ?_, rfl⟩
    rcases ends with rfl | ⟨more, rfl⟩
    · exact stops_nil _
    · exact stops_cons _ ',' more comma

theorem found_of_unbroken (separable : kind.Separable) (least : 0 < kind.least) (info : Info kind)
    (unbroken : info.url.Unbroken) : layout.Found (entry kind) info :=
  info.found_of_spelled unbroken (name_some least info.name) (name_shown separable least info.name)
    (mark_not_part separable ',' (by decide))

end Info

namespace InfoSet

theorem text_joined (infos : List (Info kind)) :
    (", ".intercalate (infos.map Info.text)).toList = Info.layout.join infos := by
  induction infos with
  | nil => rfl
  | cons first others hypothesis =>
      cases others with
      | nil => simp [Layout.join, Info.layout]
      | cons second rest =>
          rw [Layout.join, ← hypothesis]
          simp [Info.layout, Gap.none]

theorem parse_unbroken (text : String) (set : InfoSet kind) (parsed : parse kind text = .ok set) :
    ∀ info ∈ set.infos, info.url.Unbroken := by
  obtain ⟨list, read, built⟩ := (bind_ok_iff _ _ _).mp parsed
  have unbroken := listed_hold (Info.entry kind) "info" (fun info => info.url.Unbroken)
    (fun text info rest => Info.read_unbroken text rest info) text list read
  intro info member
  exact unbroken info ((((of_list_ok_iff list set).mp built).2 info).mp member)

theorem parse_found (set : InfoSet kind)
    (found : ∀ info ∈ set.infos, Info.layout.Found (Info.entry kind) info) :
    parse kind set.text = .ok set := by
  have read := listed_read (Info.entry kind) "info" Info.layout set.infos set.text
    (text_joined set.infos) found
  have built : ofList set.infos = .ok set :=
    (of_list_ok_iff set.infos set).mpr ⟨set.infos_distinct, fun _ => .rfl⟩
  exact (bind_ok_iff _ _ _).mpr ⟨set.infos, read, built⟩

theorem parse_text (separable : kind.Separable) (least : 0 < kind.least) (set : InfoSet kind)
    (unbroken : ∀ info ∈ set.infos, info.url.Unbroken) : parse kind set.text = .ok set :=
  set.parse_found fun info member => info.found_of_unbroken separable least (unbroken info member)

theorem infos_text_exact (separable : kind.Separable) (least : 0 < kind.least) :
    (∀ info : Info kind,
      (Info.parse kind info.text = .ok info ↔ info.url.Unbroken) ∧
        ∀ text, Info.parse kind text = .ok info → Info.parse kind info.text = .ok info) ∧
      ∀ set : InfoSet kind,
        (parse kind set.text = .ok set ↔ ∀ info ∈ set.infos, info.url.Unbroken) ∧
          ∀ text, parse kind text = .ok set → parse kind set.text = .ok set := by
  refine ⟨fun info => ⟨⟨?_, ?_⟩, ?_⟩, fun set => ⟨⟨?_, ?_⟩, ?_⟩⟩
  · exact Info.parse_unbroken info.text info
  · exact info.parse_text separable least
  · exact fun text parsed => info.parse_text separable least (Info.parse_unbroken text info parsed)
  · exact parse_unbroken set.text set
  · exact set.parse_text separable least
  · exact fun text parsed => set.parse_text separable least (parse_unbroken text set parsed)

end InfoSet

end Urls

namespace InfoSet

attribute [local instance] UrlLibrary.sample

theorem infos_text_plain :
    let infos : List (Info .plugin) := [⟨⟨"https://example.com/a", by decide⟩, ⟨"x", by decide⟩⟩,
      ⟨⟨"b://c?d,e", by decide⟩, ⟨"a", by decide⟩⟩]
    (NameKind.plugin.Separable ∧ 0 < NameKind.plugin.least) ∧
      ∃ set, ofList infos = .ok set ∧ parse .plugin set.text = .ok set := by
  intro infos
  obtain ⟨set, built, content⟩ := of_list_succeeds infos ⟨by decide, by decide⟩
  refine ⟨⟨plugin_separable, by decide⟩, set, built, ?_⟩
  refine ((infos_text_exact plugin_separable (by decide)).2 set).1.mpr ?_
  intro info member
  rw [content, Ordered.mem_sorted] at member
  rcases List.mem_cons.mp member with rfl | last
  · decide
  · cases List.mem_singleton.mp last
    decide

-- A space in the path of a url does not keep the url from being accepted.
theorem infos_text_spaced :
    ∃ info : Info .plugin, info.text = "https://example.com/a b x" ∧
      Url.parse "https://example.com/a b" = .ok info.url ∧ Info.parse .plugin info.text ≠ .ok info ∧
      ∃ set, ofList [info] = .ok set ∧ set.text = info.text ∧ parse .plugin set.text ≠ .ok set := by
  let info : Info .plugin :=
    ⟨⟨"https://example.com/a b", by decide⟩, ⟨"x", by decide⟩⟩
  have spaced : ¬ info.url.Unbroken := fun unbroken => absurd (unbroken.visible ' ' (by decide)) (by decide)
  obtain ⟨set, built, content⟩ := of_list_succeeds [info] ⟨by decide, by decide⟩
  refine ⟨info, by decide, info.url.parse_text, fun parsed => ?_, set, built, ?_, fun parsed => ?_⟩
  · exact spaced (Info.parse_unbroken _ _ parsed)
  · rw [text, content]
    exact String.intercalate_singleton
  · refine spaced (parse_unbroken _ _ parsed info ?_)
    rw [content]
    exact List.mem_singleton_self info

end InfoSet

end PluginNaming
