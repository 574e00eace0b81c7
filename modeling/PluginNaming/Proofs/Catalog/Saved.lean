import PluginNaming.Catalog.Store
import PluginNaming.Proofs.Catalog.Directory
import PluginNaming.Proofs.Catalog.Record

set_option autoImplicit false

namespace PluginNaming

open Data

section Kept

variable [FormatLibrary]

-- What is assumed of a format: it reads the record that it wrote, if it could write it.
def Format.Keeps (format : Format) (record : Record) : Prop :=
  ∀ text, FormatLibrary.write? format record = some text →
    ∃ again, FormatLibrary.read? format text = some again ∧ record.Same again

end Kept

namespace Contents

variable [UrlLibrary] [FormatLibrary]

def Loaded (contents : Contents) : Prop :=
  ∃ format text, (FormatLibrary.read? format text).bind ofRecord? = some contents

theorem loaded_from_text (contents : Contents) (loaded : contents.Loaded) : contents.FromText := by
  obtain ⟨format, text, found⟩ := loaded
  obtain ⟨record, _, made⟩ := Option.bind_eq_some_iff.mp found
  exact of_record_made record contents made

theorem read_again [UrlLibrary.NeverBegins ','] [UrlLibrary.NeverBegins '('] (contents : Contents)
    (made : contents.FromText) (format : Format) (text : String)
    (written : FormatLibrary.write? format contents.record = some text)
    (keeps : format.Keeps contents.record) :
    (FormatLibrary.read? format text).bind ofRecord? = some contents := by
  obtain ⟨again, read, same⟩ := keeps text written
  rw [read]
  exact contents.record_read made again same

end Contents

theorem no_repeat_of_nodup (seen names : List (Name .provider)) (distinct : names.Nodup)
    (apart : ∀ name ∈ names, name ∉ seen) : firstRepeat? seen names = none := by
  induction names generalizing seen with
  | nil => rfl
  | cons name rest hypothesis =>
      obtain ⟨fresh, others⟩ := List.nodup_cons.mp distinct
      obtain ⟨here, later⟩ := List.forall_mem_cons.mp apart
      rw [firstRepeat?, if_neg here]
      refine hypothesis (name :: seen) others fun other member inside => ?_
      rcases List.mem_cons.mp inside with rfl | earlier
      · exact fresh member
      · exact later other member earlier

namespace Catalog

theorem text_of_bytes (limit : Nat) (path text : String) :
    textOf limit path (.ok text.toUTF8) = if limit < text.toUTF8.size then
      .error (.tooLarge path text.toUTF8.size limit) else .ok text := by
  have same : String.fromUTF8? text.toUTF8 = some text := dif_pos text.isValidUTF8
  unfold textOf
  dsimp only
  rw [same]

section Loading

variable [UrlLibrary]

theorem of_contents_ok_iff (contents : Contents) (catalog : Catalog) :
    ofContents contents = .ok catalog ↔ catalog.toContents = contents := by
  constructor
  · intro built
    unfold ofContents at built
    split at built
    · cases built
    · cases built
      rfl
  · rintro rfl
    unfold ofContents
    split
    · rename_i name repeats
      cases repeats.symm.trans (no_repeat_of_nodup [] _ catalog.distinct fun _ _ => List.not_mem_nil)
    · rfl

variable [FormatLibrary]

theorem read_contents (path text : String) (catalog : Catalog) (found : read path text = .ok catalog) :
    ∃ format, formatOf path = .ok format ∧
      (FormatLibrary.read? format text).bind Contents.ofRecord? = some catalog.toContents := by
  obtain ⟨format, known, found⟩ := (bind_ok_iff _ _ _).mp found
  refine ⟨format, known, ?_⟩
  split at found
  · cases found
  · rename_i contents made
    cases built : ofContents contents with
    | error name =>
        rw [built] at found
        cases found
    | ok known =>
        rw [built] at found
        cases found
        rw [made, (of_contents_ok_iff contents catalog).mp built]

theorem load_contents (limit : Nat) (path : String) (content : FileContent) (catalog : Catalog)
    (loaded : load limit path content = .ok catalog) : catalog.toContents.Loaded := by
  obtain ⟨text, _, found⟩ := (bind_ok_iff _ _ _).mp loaded
  obtain ⟨format, _, made⟩ := read_contents path text catalog found
  exact ⟨format, text, made⟩

variable [UrlLibrary.NeverBegins ','] [UrlLibrary.NeverBegins '(']

theorem load_again (catalog : Catalog) (made : catalog.toContents.FromText) (path text : String)
    (written : catalog.write path = .ok text)
    (keeps : ∀ format, formatOf path = .ok format → format.Keeps catalog.toContents.record) (limit : Nat) :
    load limit path (.ok text.toUTF8) = if limit < text.toUTF8.size then
      .error (.tooLarge path text.toUTF8.size limit) else .ok catalog := by
  obtain ⟨format, known, found⟩ := (bind_ok_iff _ _ _).mp written
  have shown : FormatLibrary.write? format catalog.toContents.record = some text := by
    split at found
    · cases found
      assumption
    · cases found
  have again : read path text = .ok catalog := by
    have found := catalog.toContents.read_again made format text shown (keeps format known)
    unfold read
    simp only [known, bind, Except.bind, found, (of_contents_ok_iff _ catalog).mpr rfl]
    rfl
  unfold load
  rw [text_of_bytes]
  split
  · rfl
  · exact again

end Loading

end Catalog

@[reducible]
def FormatLibrary.known (format : Format) (text : String) (record : Record) : FormatLibrary where
  read? asked found := if asked = format ∧ found = text then some record else none
  write? asked given := if asked = format ∧ given == record then some text else none

theorem FormatLibrary.known_keeps (format asked : Format) (text : String) (record : Record) :
    @Format.Keeps (known format text record) asked record := by
  intro found written
  obtain ⟨⟨rfl, _⟩, same⟩ := Option.ite_none_right_eq_some.mp written
  cases same
  exact ⟨record, if_pos ⟨rfl, rfl⟩, rfl, .refl _⟩

namespace Catalog

namespace Copied

def record : Record where
  providers := some [⟨"core", "https://example.com/core", "https://example.com/plugins/a a", some "b a"⟩]
  environment := some [("locale", .text "en")]

def text : String :=
  "\x7b\n  \"providers\": [\n    \x7b\n      \"name\": \"core\",\n" ++
    "      \"url\": \"https://example.com/core\",\n" ++
    "      \"infos\": \"https://example.com/plugins/a a\",\n      \"aliases\": \"b a\"\n    \x7d\n  ],\n" ++
    "  \"environment\": \x7b\n    \"locale\": \"en\"\n  \x7d\n\x7d"

@[reducible]
def formats : FormatLibrary :=
  .known .json text record

end Copied

attribute [local instance] UrlLibrary.sample Copied.formats

end Catalog

end PluginNaming
