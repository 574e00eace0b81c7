import PluginNaming.Proofs.Listed

set_option autoImplicit false

namespace PluginNaming

open Text

variable {α : Type}

-- How an entry may be written: the text begins with the entry, and the rest is what follows it. An
-- entry may depend on what follows it, as a url does, which goes on up to a blank.
abbrev Spelling (α : Type) := List Char → α → List Char → Prop

inductive Series (spelling : Spelling α) : List Char → List α → Prop where
  | last (text : List Char) (item : α) (after : Gap) (only : spelling text item after.blanks) :
      Series spelling text [item]
  | more (text rest : List Char) (item : α) (others : List α) (after before : Gap)
      (first : spelling text item (after.blanks ++ ',' :: (before.blanks ++ rest)))
      (following : Series spelling rest others) : Series spelling text (item :: others)

inductive Listing (spelling : Spelling α) : List Char → List α → Prop where
  | blank (gap : Gap) : Listing spelling gap.blanks []
  | filled (before : Gap) (text : List Char) (items : List α) (series : Series spelling text items) :
      Listing spelling (before.blanks ++ text) items

def Parted (rest : List Char) : Prop :=
  ∀ c ∈ (skipBlanks rest).head?, c = ','

theorem parted_end (after : Gap) : Parted after.blanks := by
  intro c first
  rw [after.skip_all] at first
  cases first

theorem parted_comma (after : Gap) (more : List Char) : Parted (after.blanks ++ ',' :: more) := by
  intro c first
  rw [after.skip _ (stops_cons _ _ _ (by decide))] at first
  cases first
  rfl

theorem comma_behind (behind more rest : List Char) (comma : skipBlanks behind = ',' :: more)
    (next : skipBlanks more = rest) :
    behind = (Gap.before behind).blanks ++ ',' :: ((Gap.before more).blanks ++ rest) := by
  rw [← next, Gap.before_append, ← comma, Gap.before_append]

-- A reader that takes what is spelled in front of an end or a comma, and takes nothing else. It may
-- leave the blanks behind an entry or take them as well.
structure EntryReader.Follows (entry : EntryReader α) (spelling : Spelling α) : Prop where
  visible : ∀ text item rest, spelling text item rest → ∃ c more, text = c :: more ∧ isBlank c = false
  sound : ∀ text item left, entry.read text = .ok (item, left) →
    ∃ rest, spelling text item rest ∧ skipBlanks rest = skipBlanks left
  complete : ∀ text item rest, spelling text item rest → Parted rest →
    ∃ left, entry.read text = .ok (item, left) ∧ skipBlanks left = skipBlanks rest

section Listings

variable (entry : EntryReader α) (spelling : Spelling α) (follows : entry.Follows spelling)
  (expected : String)

include follows

theorem series_visible (text : List Char) (items : List α) (series : Series spelling text items) :
    ∃ c more, text = c :: more ∧ isBlank c = false := by
  cases series with
  | last _ item after only => exact follows.visible _ _ _ only
  | more _ rest item others after before first _ => exact follows.visible _ _ _ first

theorem series_shown (text : List Char) (items : List α) (series : Series spelling text items)
    (more : List Char) : Stops isBlank (text ++ more) := by
  obtain ⟨c, tail, shape, visible⟩ := series_visible entry spelling follows text items series
  rw [shape]
  exact stops_cons _ c _ visible

theorem series_read (text : List Char) (items : List α) (series : Series spelling text items) :
    readEntries entry expected text = .ok items := by
  induction series with
  | last text item after only =>
      obtain ⟨left, read, same⟩ := follows.complete _ _ _ only (parted_end after)
      exact entries_last entry expected text left item read (same.trans after.skip_all)
  | more text rest item others after before first following hypothesis =>
      obtain ⟨left, read, same⟩ := follows.complete _ _ _ first (parted_comma after _)
      obtain ⟨c, more, shape, visible⟩ := series_visible entry spelling follows rest others following
      have comma := same.trans (after.skip _ (stops_cons _ _ _ (by decide)))
      have next : skipBlanks (before.blanks ++ rest) = c :: more := by
        rw [shape]
        exact before.skip _ (stops_cons _ _ _ visible)
      rw [entries_more entry expected text left _ more item c read comma next, ← shape, hypothesis]
      rfl

theorem read_series (text : List Char) (items : List α)
    (found : readEntries entry expected text = .ok items) : Series spelling text items := by
  fun_induction readEntries entry expected text generalizing items with
  | case1 => cases found
  | case2 text item left read ended =>
      cases found
      obtain ⟨rest, spelled, same⟩ := follows.sound _ _ _ read
      exact .last text item ⟨rest, all_blank rest (same.trans ended)⟩ spelled
  | case3 => cases found
  | case4 text item left read more c rest next comma hypothesis =>
      cases remaining : readEntries entry expected (c :: rest) with
      | error stop =>
          rw [remaining] at found
          cases found
      | ok others =>
          rw [remaining] at found
          cases found
          obtain ⟨behind, spelled, same⟩ := follows.sound _ _ _ read
          rw [comma_behind behind more (c :: rest) (same.trans comma) next] at spelled
          exact .more text (c :: rest) item others _ _ spelled (hypothesis others remaining)
  | case5 => cases found

theorem listing_iff (text : String) (items : List α) :
    readListed entry expected text = .ok items ↔ Listing spelling text.toList items := by
  unfold readListed
  constructor
  · intro found
    have split := Gap.before_append text.toList
    split at found
    · rename_i empty
      cases found
      rw [empty, List.append_nil] at split
      exact split ▸ .blank _
    · rename_i c rest shown
      rw [shown] at split
      cases read : readEntries entry expected (c :: rest) with
      | error stop =>
          rw [read] at found
          cases found
      | ok others =>
          rw [read] at found
          cases found
          exact split ▸ .filled _ _ _ (read_series entry spelling follows expected _ _ read)
  · intro listing
    generalize text.toList = written at listing
    cases listing with
    | blank gap => rw [gap.skip_all]
    | filled before text _ series =>
        obtain ⟨c, more, shape, visible⟩ := series_visible entry spelling follows text items series
        have read := series_read entry spelling follows expected text items series
        rw [shape] at read ⊢
        rw [before.skip _ (stops_cons _ _ _ visible)]
        simp only [read]
        rfl

theorem listing_unique (text : String) (items others : List α)
    (one : Listing spelling text.toList items) (other : Listing spelling text.toList others) :
    items = others := by
  have first := (listing_iff entry spelling follows "" text items).mpr one
  have second := (listing_iff entry spelling follows "" text others).mpr other
  exact Except.ok.inj (first.symm.trans second)

theorem series_split (text more : List Char) (items : List α) (series : Series spelling text items)
    (item : α) (after : Gap) (first : spelling text item (after.blanks ++ ',' :: more)) :
    ∃ (before : Gap) (rest : List Char) (others : List α),
      more = before.blanks ++ rest ∧ Series spelling rest others := by
  obtain ⟨left, read, same⟩ := follows.complete _ _ _ first (parted_comma after more)
  rw [after.skip _ (stops_cons _ _ _ (by decide))] at same
  cases series with
  | last _ other ending only =>
      obtain ⟨_, again, also⟩ := follows.complete _ _ _ only (parted_end ending)
      cases read.symm.trans again
      rw [same, ending.skip_all] at also
      cases also
  | more _ rest other others ending before second following =>
      obtain ⟨_, again, also⟩ := follows.complete _ _ _ second (parted_comma ending _)
      cases read.symm.trans again
      rw [same, ending.skip _ (stops_cons _ _ _ (by decide))] at also
      exact ⟨before, rest, others, (List.cons.inj also).2, following⟩

theorem series_after (grows : ∀ text item rest more, spelling text item rest →
      spelling (text ++ more) item (rest ++ more))
    (front more : List Char) (items all : List α) (series : Series spelling front items)
    (whole : Series spelling (front ++ ',' :: more) all) :
    ∃ (before : Gap) (rest : List Char) (others : List α),
      more = before.blanks ++ rest ∧ Series spelling rest others := by
  induction series generalizing all with
  | last text item after only =>
      exact series_split entry spelling follows _ more all whole item after (grows _ _ _ _ only)
  | more text rest item others after before first following hypothesis =>
      have spelled := grows _ _ _ (',' :: more) first
      rw [List.append_assoc, List.cons_append, List.append_assoc] at spelled
      obtain ⟨gap, found, items, same, series⟩ :=
        series_split entry spelling follows _ _ all whole item after spelled
      have shown := series_shown entry spelling follows rest others following (',' :: more)
      have ends := series_shown entry spelling follows found items series []
      rw [List.append_nil] at ends
      obtain ⟨_, equal⟩ := before.unique gap _ _ shown ends same
      exact hypothesis items (equal ▸ series)

theorem listing_series (before : Gap) (text : List Char) (items : List α) (shown : Stops isBlank text)
    (some : text ≠ []) (listing : Listing spelling (before.blanks ++ text) items) :
    Series spelling text items := by
  generalize shape : before.blanks ++ text = whole at listing
  have skipped := before.skip text shown
  rw [shape] at skipped
  cases listing with
  | blank gap =>
      rw [gap.skip_all] at skipped
      exact absurd skipped.symm some
  | filled gap written _ series =>
      have begun := series_shown entry spelling follows written items series []
      rw [List.append_nil] at begun
      rw [gap.skip written begun] at skipped
      exact skipped ▸ series

end Listings

inductive Due (spelling : Spelling α) (text : List Char) : List Char → Prop where
  | first (gap : Gap) (rest : List Char) (whole : text = gap.blanks ++ rest) : Due spelling text rest
  | next (earlier rest : List Char) (item : α) (after before : Gap) (due : Due spelling text earlier)
      (spelled : spelling earlier item (after.blanks ++ ',' :: (before.blanks ++ rest))) :
      Due spelling text rest

theorem due_behind (spelling : Spelling α)
    (behind : ∀ text item rest, spelling text item rest → rest <:+ text)
    (text rest : List Char) (due : Due spelling text rest) :
    ∃ front, text = front ++ rest ∧ ∀ c ∈ front.getLast?, isBlank c = true ∨ c = ',' := by
  induction due with
  | first gap rest whole =>
      refine ⟨gap.blanks, whole, fun c last => .inl ?_⟩
      exact List.all_eq_true.mp gap.blank c (List.mem_of_getLast? last)
  | next earlier rest item after before _ spelled hypothesis =>
      obtain ⟨start, begun, _⟩ := hypothesis
      obtain ⟨shown, shape⟩ := behind _ _ _ spelled
      refine ⟨(start ++ (shown ++ after.blanks)) ++ ',' :: before.blanks, by simp [begun, ← shape], ?_⟩
      intro c last
      have ended : (',' :: before.blanks).getLast? = some c := by
        simpa [List.getLast?_append] using last
      rcases List.mem_cons.mp (List.mem_of_getLast? ended) with comma | inside
      · exact .inr comma
      · exact .inl (List.all_eq_true.mp before.blank c inside)

section Failures

variable (entry : EntryReader α) (spelling : Spelling α) (expected : String) (stop : Stop)

def StopsAt (text : List Char) : Prop :=
  (∃ rest, Due spelling text rest ∧ Stops isBlank rest ∧ entry.read rest = .error stop) ∨
    stop.cause = .unexpected ∨ stop.cause = .ended expected

section Sound

variable (sound : ∀ text item left, entry.read text = .ok (item, left) →
  ∃ rest, spelling text item rest ∧ skipBlanks rest = skipBlanks left)

include sound

theorem entries_failed (whole text : List Char) (due : Due spelling whole text) (shown : Stops isBlank text)
    (failed : readEntries entry expected text = .error stop) :
    StopsAt entry spelling expected stop whole := by
  fun_induction readEntries entry expected text with
  | case1 text other read =>
      cases failed
      exact .inl ⟨text, due, shown, read⟩
  | case2 => cases failed
  | case3 =>
      cases failed
      exact .inr (.inr rfl)
  | case4 text item left read more c rest next comma hypothesis =>
      cases remaining : readEntries entry expected (c :: rest) with
      | ok others =>
          rw [remaining] at failed
          cases failed
      | error other =>
          rw [remaining] at failed
          cases failed
          obtain ⟨behind, spelled, same⟩ := sound _ _ _ read
          rw [comma_behind behind more (c :: rest) (same.trans comma) next] at spelled
          exact hypothesis (.next text _ item _ _ due spelled) (next ▸ stops_skip more) remaining
  | case5 =>
      cases failed
      exact .inr (.inl rfl)

theorem listed_failed (text : String) (fault : Fault)
    (failed : readListed entry expected text = .error fault) :
    ∃ stop, StopsAt entry spelling expected stop text.toList ∧ fault = stop.fault text := by
  unfold readListed at failed
  split at failed
  · cases failed
  · rename_i c rest shown
    cases read : readEntries entry expected (c :: rest) with
    | ok items =>
        rw [read] at failed
        cases failed
    | error stop =>
        rw [read] at failed
        cases failed
        have due : Due spelling text.toList (c :: rest) :=
          .first (.before text.toList) _ (shown ▸ (Gap.before_append text.toList).symm)
        exact ⟨stop, entries_failed entry spelling expected stop sound _ _ due
          (shown ▸ stops_skip text.toList) read, rfl⟩

end Sound

theorem due_failed (follows : entry.Follows spelling) (text : String) (rest : List Char)
    (due : Due spelling text.toList rest) (shown : Stops isBlank rest) (some : rest ≠ [])
    (failed : readEntries entry expected rest = .error stop) :
    readListed entry expected text = .error (stop.fault text) := by
  induction due with
  | first gap rest whole =>
      obtain ⟨c, more, rfl⟩ := List.exists_cons_of_ne_nil some
      rw [readListed, whole, gap.skip _ shown]
      simp only [failed]
      rfl
  | next earlier rest item after before _ spelled hypothesis =>
      obtain ⟨left, read, same⟩ := follows.complete _ _ _ spelled (parted_comma after _)
      obtain ⟨d, tail, begun, visible⟩ := follows.visible _ _ _ spelled
      obtain ⟨c, more, rfl⟩ := List.exists_cons_of_ne_nil some
      have comma := same.trans (after.skip _ (stops_cons _ _ _ (by decide)))
      have next := before.skip (c :: more) shown
      refine hypothesis (begun ▸ stops_cons _ d _ visible) (begun ▸ List.cons_ne_nil d _) ?_
      rw [entries_more entry expected earlier left _ more item c read comma next, failed]
      rfl

theorem entries_refused (text : List Char) (refused : entry.read text = .error stop) :
    readEntries entry expected text = .error stop := by
  rw [readEntries]
  split
  · rename_i found
    cases found.symm.trans refused
    rfl
  · rename_i found
    cases found.symm.trans refused

end Failures

end PluginNaming
