import Mathlib.Data.List.Forall2
import PluginNaming.Proofs.Selector.Enclosed
import PluginNaming.Proofs.Selector.Parameter

set_option autoImplicit false

namespace PluginNaming

open Text

variable {kind : NameKind} {σ τ : Type}

def afterGroup (text : List Char) : Except Stop (List Char) :=
  match takeGroup (skipBlanks text) with
  | .token _ rest => .ok (skipBlanks rest)
  | .absent => .ok (skipBlanks text)
  | .failed stop => .error stop

-- The text does not go on with the name, does not leave a group open, and no comma comes after it.
structure Selector.Sealed (selector : Selector kind) : Prop where
  named : Stops kind.part selector.text.toList
  closed : ∀ stop expected, afterGroup selector.text.toList = .error stop →
    stop.cause ≠ .ended expected
  ended : ∀ rest, afterGroup selector.text.toList = .ok rest → Stops (· == ',') rest

inductive Parameter.Yields (lookup : Lookup) (call : Call kind σ τ) : Parameter kind → Value τ → Prop
  | number (value : Number.Binary64) : Yields lookup call (.number value) (.number value)
  | text (value : String) : Yields lookup call (.text value) (.text value)
  | selector (nested : Selector kind) (values : List (Value τ)) (state : σ) (plugin : τ)
      (given : ((call nested.name values).perform state).1 = .ok plugin) :
      Yields lookup call (.selector nested) (.provided plugin)
  | reference (name : Name .environment) (value : Data.Json) (known : lookup name = some value) :
      Yields lookup call (.reference name) (.environment value)

section Stopped

theorem piece_stopped (piece : Piece) (rest : List Char) (stop : Stop)
    (unread : (readString rest).map (fun read => (piece.value :: read.1, read.2)) = .error stop)
    (hypothesis : readString rest = .error stop → (∃ expected, stop.cause = .ended expected) ∨
      ∀ more, ∃ other, readString (rest ++ more) = .error other) :
    (∃ expected, stop.cause = .ended expected) ∨
      ∀ more, ∃ other, readString (piece.print ++ (rest ++ more)) = .error other := by
  cases inner : readString rest with
  | ok read =>
      rw [inner] at unread
      cases unread
  | error other =>
      rw [inner] at unread
      cases unread
      refine (hypothesis inner).imp_right fun stays more => ?_
      obtain ⟨last, failed⟩ := stays more
      exact ⟨last, by rw [piece.read_piece, failed]; rfl⟩

theorem string_stopped (text : List Char) (stop : Stop) (unread : readString text = .error stop) :
    (∃ expected, stop.cause = .ended expected) ∨
      ∀ more, ∃ other, readString (text ++ more) = .error other := by
  fun_induction readString text generalizing stop with
  | case1 =>
      cases unread
      exact .inl ⟨_, rfl⟩
  | case2 rest => cases unread
  | case3 =>
      cases unread
      exact .inl ⟨_, rfl⟩
  | case4 e after meaningless _ =>
      refine .inr fun more => ⟨⟨.unexpected, e :: (after ++ more)⟩, ?_⟩
      rw [List.cons_append, readString.eq_def]
      simp [meaningless]
  | case5 e after plain means _ hypothesis =>
      exact piece_stopped (.escape e plain ((unescape_iff e plain).mp means)) after stop unread (hypothesis stop)
  | case6 c rest quote slash hypothesis =>
      exact piece_stopped (.plain c ⟨quote, slash⟩) rest stop unread (hypothesis stop)

theorem skip_stopped (depth : Nat) (text : List Char) (stop : Stop)
    (unread : skipGroup depth text = .error stop) :
    (∃ expected, stop.cause = .ended expected) ∨
      ∀ more, ∃ other, skipGroup depth (text ++ more) = .error other := by
  fun_induction skipGroup depth text with
  | case1 =>
      cases unread
      exact .inl ⟨_, rfl⟩
  | case2 depth rest value after read hypothesis =>
      refine (hypothesis unread).imp_right fun stays more => ?_
      obtain ⟨other, failed⟩ := stays more
      obtain ⟨pieces, _, rfl⟩ := Piece.taken _ _ _ read
      refine ⟨other, ?_⟩
      rw [List.cons_append, List.append_assoc, List.cons_append, skip_quoted, failed]
  | case3 depth rest other read =>
      cases unread
      refine (string_stopped rest stop read).imp_right fun stays more => ?_
      obtain ⟨last, failed⟩ := stays more
      exact ⟨last, skip_unread depth (rest ++ more) last failed⟩
  | case4 depth rest _ hypothesis =>
      refine (hypothesis unread).imp_right fun stays more => ?_
      rw [List.cons_append, skip_open]
      exact stays more
  | case5 rest => cases unread
  | case6 rest _ _ outer hypothesis =>
      refine (hypothesis unread).imp_right fun stays more => ?_
      rw [List.cons_append, skip_close]
      exact stays more
  | case7 depth c rest quote opens closes hypothesis =>
      refine (hypothesis unread).imp_right fun stays more => ?_
      rw [List.cons_append, skip_plain depth (rest ++ more) c ⟨quote, opens, closes⟩]
      exact stays more

theorem group_stopped (text : List Char) (stop : Stop) (unread : takeGroup text = .failed stop) :
    (∃ expected, stop.cause = .ended expected) ∨
      ∀ more, ∃ other, takeGroup (text ++ more) = .failed other := by
  cases text with
  | nil => cases unread
  | cons c inner =>
      by_cases opens : c = '('
      · rw [takeGroup, if_pos opens] at unread
        cases skipped : skipGroup 0 inner with
        | ok rest =>
            rw [skipped] at unread
            cases unread
        | error other =>
            rw [skipped] at unread
            cases unread
            refine (skip_stopped 0 inner stop skipped).imp_right fun stays more => ?_
            obtain ⟨last, failed⟩ := stays more
            refine ⟨last, ?_⟩
            rw [List.cons_append, takeGroup, if_pos opens, failed]
      · rw [takeGroup, if_neg opens] at unread
        cases unread

end Stopped

theorem visible_mark (c : Char) (mark : c = ',' ∨ c = ')') : isBlank c = false := by
  rcases mark with rfl | rfl <;> decide

theorem take_lead_name (separable : kind.Separable) (name : Name kind) (some : name.text ≠ "")
    (rest : List Char) (stops : Stops kind.part rest) :
    takeLead kind (name.text.toList ++ rest) = .token (.name name) rest := by
  obtain ⟨c, more, shape, initial, _⟩ := name_head name some
  have taken := take_name_written name rest some stops
  rw [shape, List.cons_append] at taken
  simp [takeLead, shape, no_variable c _ (separable.dollar c initial), taken]

theorem Term.named (separable : kind.Separable) (term : Term kind) (name : Name kind)
    (some : name.text ≠ "") (text rest : List Char) (closes : Closes rest)
    (stops : Stops kind.part text) (same : term.print ++ rest = name.text.toList ++ text) :
    (∃ written, term.head = .name name written) ∧ term.behind ++ rest = text := by
  have taken := Word.take_lead separable term.head _ (term.behind_breaks rest closes)
  rw [← List.append_assoc, ← term.print_split, same, take_lead_name separable name some text stops]
    at taken
  obtain ⟨leads, left⟩ := Taken.token.inj taken
  exact ⟨word_of_name name term.head leads.symm, left.symm⟩

section Entry

variable (gap : Gap) (c d : Char) (rest tail : List Char) (mark : c = ',' ∨ c = ')')
  (other : d = ',' ∨ d = ')') (last : c = ')' → rest.all isBlank = true) (closed : ')' ∈ d :: tail)

include mark other last closed

theorem mark_kept (text : List Char) (ended : Stops (· == ',') (skipBlanks text))
    (same : gap.blanks ++ c :: rest = text ++ d :: tail) :
    text.all isBlank = true ∧ c = d ∧ rest = tail := by
  have begins : Stops isBlank (c :: rest) := stops_cons _ _ _ (visible_mark c mark)
  cases left : skipBlanks text with
  | nil =>
      have blank := all_blank text left
      obtain ⟨_, others⟩ := gap.unique ⟨text, blank⟩ _ _ begins (stops_cons _ _ _ (visible_mark d other))
        same
      exact ⟨blank, List.cons.inj others⟩
  | cons e more =>
      have split := Gap.before_append text
      have shown := starts_blank_skip_blanks text
      rw [left] at split shown ended
      rw [← split, List.append_assoc] at same
      obtain ⟨_, others⟩ := gap.unique _ _ _ begins (stops_cons _ _ _ shown) same
      obtain ⟨rfl, rfl⟩ := List.cons.inj others
      -- Here the text itself holds the mark: a comma is excluded, and a parenthesis comes too early.
      rcases mark with rfl | rfl
      · exact absurd (ended ',' rfl) (by decide)
      · have blank := List.all_eq_true.mp (last rfl) ')' (List.mem_append_right more closed)
        exact absurd blank (by decide)

theorem group_kept (separable : kind.Separable) (text : List Char) (before : Gap) (group : Group kind)
    (unopened : ∀ stop expected, afterGroup text = .error stop → stop.cause ≠ .ended expected)
    (ended : ∀ left, afterGroup text = .ok left → Stops (· == ',') left)
    (same : before.blanks ++ (group.print ++ (gap.blanks ++ c :: rest)) = text ++ d :: tail) :
    (∃ phrase : Phrase kind, phrase.print = text) ∧ c = d ∧ rest = tail := by
  have split := Gap.before_append text
  rw [← split, List.append_assoc] at same
  have begins : Stops isBlank (skipBlanks text ++ d :: tail) :=
    stops_append _ _ _ (stops_skip text) (stops_cons _ _ _ (visible_mark d other))
  obtain ⟨_, others⟩ := before.unique _ _ _ (group.shown _) begins same
  have written := take_enclosed _ (gap.blanks ++ c :: rest) (group.enclosed separable)
  rw [others] at written
  cases taken : takeGroup (skipBlanks text) with
  | absent =>
      rw [group.print_open] at others
      cases left : skipBlanks text with
      | nil =>
          rw [left] at others
          rcases other with rfl | rfl <;> cases others
      | cons e more =>
          rw [left] at others taken
          obtain ⟨rfl, _⟩ := List.cons.inj others
          exact absurd taken (group_present more)
  | failed stop =>
      rw [afterGroup, taken] at unopened
      rcases group_stopped _ stop taken with ⟨expected, cause⟩ | stays
      · exact absurd cause (unopened stop expected rfl)
      · obtain ⟨other, failed⟩ := stays (d :: tail)
        cases failed.symm.trans written
  | token value after =>
      rw [afterGroup, taken] at ended
      obtain ⟨enclosed, shape⟩ := group_taken _ _ _ taken
      rw [shape, List.append_assoc] at others
      obtain ⟨groups, remaining⟩ :=
        enclosed_unique _ _ _ _ (group.enclosed separable) enclosed others
      obtain ⟨blank, marks⟩ := mark_kept gap c d rest tail mark other last closed after
        (ended _ rfl) remaining
      refine ⟨⟨.listed (.before text) group ⟨after, blank⟩, ?_⟩, marks⟩
      rw [Phrase.print, groups, ← shape, split]

theorem nested_kept (separable : kind.Separable) (least : 0 < kind.least) (term : Term kind)
    (nested : Selector kind) (isolated : nested.Sealed)
    (same : term.print ++ (gap.blanks ++ c :: rest) =
      nested.name.text.toList ++ (nested.text.toList ++ d :: tail)) :
    (∃ phrase : Phrase kind, phrase.print = nested.text.toList) ∧ c = d ∧ rest = tail := by
  have apart : kind.part d = false := by
    refine mark_not_part separable d ?_
    rcases other with rfl | rfl <;> decide
  have stops := stops_append _ _ _ isolated.named (stops_cons _ d tail apart)
  obtain ⟨⟨_, head⟩, behind⟩ := term.named separable nested.name (name_some least nested.name) _ _
    (closes_after gap c rest mark) stops same
  cases term with
  | word leaf =>
      rw [Term.behind, List.nil_append] at behind
      by_cases absent : takeGroup (skipBlanks nested.text.toList) = .absent
      · have ended := isolated.ended (skipBlanks nested.text.toList) (by rw [afterGroup, absent])
        obtain ⟨blank, marks⟩ := mark_kept gap c d rest tail mark other last closed _ ended behind
        exact ⟨⟨.blank ⟨_, blank⟩, rfl⟩, marks⟩
      · obtain ⟨inner, opened⟩ := group_opened _ absent
        have split := Gap.before_append nested.text.toList
        rw [← split, opened, List.append_assoc] at behind
        obtain ⟨_, others⟩ := gap.unique _ _ _ (stops_cons _ _ _ (visible_mark c mark))
          (stops_cons _ _ _ (by decide)) behind
        rcases mark with rfl | rfl <;> cases others
  | call name written before group =>
      rw [Term.behind, List.append_assoc] at behind
      exact group_kept gap c d rest tail mark other last closed separable _ before group
        isolated.closed isolated.ended behind

theorem parameter_kept (separable : kind.Separable) (least : 0 < kind.least) (term : Term kind)
    (parameter : Parameter kind) (text : List Char)
    (printed : Selector.printParameter parameter = .ok text)
    (isolated : ∀ nested, parameter = .selector nested → nested.Sealed)
    (same : term.print ++ (gap.blanks ++ c :: rest) = text ++ d :: tail) :
    (∀ nested, parameter = .selector nested →
      ∃ phrase : Phrase kind, phrase.print = nested.text.toList) ∧ c = d ∧ rest = tail := by
  rcases parameter.leaf_or_nested with leaf | ⟨nested, selects⟩
  · obtain ⟨word, shape, _⟩ := parameter.word_written text leaf printed
    rw [← shape] at same
    obtain ⟨_, behind⟩ := term.unique separable (.word word) _ _ (closes_after gap c rest mark)
      (closes_after .none d tail other) same
    obtain ⟨_, others⟩ := gap.unique .none _ _ (stops_cons _ _ _ (visible_mark c mark))
      (stops_cons _ _ _ (visible_mark d other)) behind
    exact ⟨fun nested selects => absurd selects (leaf nested), List.cons.inj others⟩
  · have sealed := isolated nested selects
    subst selects
    cases printed
    rw [List.append_assoc] at same
    obtain ⟨spelled, marks⟩ := nested_kept gap c d rest tail mark other last closed separable least term
      nested sealed same
    refine ⟨fun _ selects => ?_, marks⟩
    cases selects
    exact spelled

end Entry

theorem Row.first (row : Row kind) (left : List Char) :
    ∃ (before : Gap) (term : Term kind) (gap : Gap) (c : Char) (rest : List Char),
      row.print ++ left = before.blanks ++ (term.print ++ (gap.blanks ++ c :: rest)) ∧
        (c = ')' ∧ rest = left ∨ c = ',' ∧ ∃ others : Row kind, rest = others.print ++ left) := by
  cases row with
  | last before term after =>
      exact ⟨before, term, after, ')', left, by simp [print], .inl ⟨rfl, rfl⟩⟩
  | more before term after others =>
      exact ⟨before, term, after, ',', others.print ++ left, by simp [print], .inr ⟨rfl, others, rfl⟩⟩

theorem print_parameter_head (separable : kind.Separable) (least : 0 < kind.least)
    (parameter : Parameter kind) (text : List Char)
    (printed : Selector.printParameter parameter = .ok text) :
    ∃ c more, text = c :: more ∧ isBlank c = false ∧ c ≠ ')' := by
  rcases parameter.leaf_or_nested with leaf | ⟨nested, rfl⟩
  · obtain ⟨word, shape, _⟩ := parameter.word_written text leaf printed
    rw [← shape]
    exact word.print_head separable
  · cases printed
    obtain ⟨c, more, shape, visible⟩ :=
      Word.print_head separable (.name nested.name (name_some least nested.name))
    rw [Word.print] at shape
    rw [shape]
    exact ⟨c, _, rfl, visible⟩

section Rows

variable (separable : kind.Separable) (least : 0 < kind.least)

include separable least

theorem first_kept (first : Parameter kind) (text tail : List Char) (before after : Gap) (row : Row kind)
    (d : Char) (other : d = ',' ∨ d = ')') (closed : ')' ∈ d :: tail)
    (printed : Selector.printParameter first = .ok text)
    (isolated : ∀ nested, first = .selector nested → nested.Sealed)
    (same : row.print ++ after.blanks = before.blanks ++ (text ++ d :: tail)) :
    (∀ nested, first = .selector nested →
      ∃ phrase : Phrase kind, phrase.print = nested.text.toList) ∧
      (d = ')' ∨ ∃ others : Row kind, tail = others.print ++ after.blanks) := by
  obtain ⟨gap, term, trailing, c, rest, shape, ends⟩ := row.first after.blanks
  have mark : c = ',' ∨ c = ')' := by
    rcases ends with ⟨close, _⟩ | ⟨comma, _⟩
    · exact .inr close
    · exact .inl comma
  have last : c = ')' → rest.all isBlank = true := by
    rintro rfl
    rcases ends with ⟨_, left⟩ | ⟨comma, _⟩
    · exact left ▸ after.blank
    · exact absurd comma (by decide)
  obtain ⟨e, more, head, visible, _⟩ := print_parameter_head separable least first text printed
  have begins : Stops isBlank (text ++ d :: tail) := by
    rw [head]
    exact stops_cons _ _ _ visible
  rw [shape] at same
  obtain ⟨_, entries⟩ := gap.unique before _ _ (term.shown separable _) begins same
  obtain ⟨spelled, rfl, rfl⟩ := parameter_kept trailing c d rest tail mark other last closed separable
    least term first text printed isolated entries
  refine ⟨spelled, ?_⟩
  rcases ends with ⟨close, _⟩ | ⟨_, others⟩
  · exact .inl close
  · exact .inr others

theorem row_kept (first : Parameter kind) (others : List (Parameter kind)) (written : List (List Char))
    (before after : Gap) (row : Row kind)
    (printed : (first :: others).mapM Selector.printParameter = .ok written)
    (isolated : ∀ nested, .selector nested ∈ first :: others → nested.Sealed)
    (same : row.print ++ after.blanks =
      before.blanks ++ ([',', ' '].intercalate written ++ [')'])) :
    ∀ nested, .selector nested ∈ first :: others →
      ∃ phrase : Phrase kind, phrase.print = nested.text.toList := by
  induction others generalizing first written before row with
  | nil =>
      rw [List.mapM_cons, bind_ok_iff] at printed
      obtain ⟨text, one, rest⟩ := printed
      cases rest
      have kept := first_kept separable least first text [] before after row ')' (.inr rfl)
        List.mem_cons_self one (fun nested selects => isolated nested (selects ▸ List.mem_cons_self))
        (by simpa using same)
      intro nested member
      exact kept.1 nested (List.mem_singleton.mp member).symm
  | cons second others hypothesis =>
      rw [List.mapM_cons, bind_ok_iff] at printed
      obtain ⟨text, one, rest⟩ := printed
      rw [bind_ok_iff] at rest
      obtain ⟨texts, following, whole⟩ := rest
      cases whole
      rw [Parameter.joined_cons text texts (map_some _ _ _ _ following), List.append_assoc] at same
      obtain ⟨spelled, close | ⟨row, shape⟩⟩ := first_kept separable least first text _ before after row
        ',' (.inl rfl) (by simp) one
        (fun nested selects => isolated nested (selects ▸ List.mem_cons_self)) same
      · exact absurd close (by decide)
      · have inner := hypothesis second texts ⟨[' '], rfl⟩ row following
          (fun nested member => isolated nested (List.mem_cons_of_mem _ member)) shape.symm
        intro nested member
        cases member with
        | head => exact spelled nested rfl
        | tail _ inside => exact inner nested inside

theorem joined_head (first : Parameter kind) (others : List (Parameter kind))
    (written : List (List Char))
    (printed : (first :: others).mapM Selector.printParameter = .ok written) :
    ∃ c more, [',', ' '].intercalate written ++ [')'] = c :: more ∧ isBlank c = false ∧ c ≠ ')' := by
  rw [List.mapM_cons, bind_ok_iff] at printed
  obtain ⟨text, one, rest⟩ := printed
  rw [bind_ok_iff] at rest
  obtain ⟨texts, following, whole⟩ := rest
  cases whole
  obtain ⟨c, more, head, visible⟩ := print_parameter_head separable least first text one
  cases texts with
  | nil => exact ⟨c, more ++ [')'], by simp [head], visible⟩
  | cons second texts =>
      rw [Parameter.joined_cons text _ (List.cons_ne_nil second texts), head]
      exact ⟨c, _, rfl, visible⟩

theorem list_kept (selector written : Selector kind) (parameters : List (Parameter kind))
    (isolated : ∀ nested, .selector nested ∈ parameters → nested.Sealed)
    (printed : selector.setParameters parameters = .ok written) (whole : written.arguments.Whole) :
    ∀ nested, .selector nested ∈ parameters →
      ∃ phrase : Phrase kind, phrase.print = nested.text.toList := by
  obtain ⟨texts, shape, result⟩ := (bind_ok_iff _ _ _).mp printed
  cases result
  obtain ⟨phrase, same⟩ := Phrase.of_whole _ whole
  cases parameters with
  | nil =>
      intro nested member
      cases member
  | cons first others =>
      have list : phrase.print = '(' :: ([',', ' '].intercalate texts ++ [')']) :=
        same.trans String.toList_ofList
      cases phrase with
      | blank gap =>
          have blank := gap.blank
          rw [Phrase.print] at list
          rw [list] at blank
          cases blank
      | listed before group after =>
          obtain ⟨_, groups⟩ := before.unique .none _ _ (group.shown _)
            (stops_cons _ _ _ (by decide)) list
          rw [group.print_open, List.cons_append] at groups
          have insides := (List.cons.inj groups).2
          cases group with
          | empty gap =>
              obtain ⟨c, more, head, visible, other⟩ := joined_head separable least first others texts shape
              rw [Group.inside, List.append_assoc, head] at insides
              obtain ⟨_, closes⟩ := gap.unique .none _ _ (stops_cons _ _ _ (by decide))
                (stops_cons _ _ _ visible) insides
              exact absurd (List.cons.inj closes).1.symm other
          | filled row =>
              exact row_kept separable least first others texts .none after row shape isolated insides

end Rows

theorem Phrase.after_group (separable : kind.Separable) (phrase : Phrase kind) :
    afterGroup phrase.print = .ok [] := by
  cases phrase with
  | blank gap =>
      rw [print, afterGroup, gap.skip_all]
      rfl
  | listed before group after =>
      have taken := take_enclosed group.print after.blanks (group.enclosed separable)
      rw [print, afterGroup, before.skip _ (group.shown after.blanks), taken]
      exact congrArg Except.ok after.skip_all

theorem Phrase.breaks (phrase : Phrase kind) : Breaks phrase.print := by
  cases phrase with
  | blank gap => exact breaks_blank gap.blanks gap.blank
  | listed before group after => exact gap_breaks before group after.blanks

theorem Phrase.sealed (separable : kind.Separable) (phrase : Phrase kind) (nested : Selector kind)
    (spelled : phrase.print = nested.text.toList) : nested.Sealed := by
  have reached := phrase.after_group separable
  rw [spelled] at reached
  refine ⟨?_, fun stop expected failed => ?_, fun rest found => ?_⟩
  · rw [← spelled]
    exact breaks_stops _ _ (mark_not_part separable) phrase.breaks
  · cases reached.symm.trans failed
  · cases reached.symm.trans found
    exact stops_nil _

section Evaluation

variable (lookup : Lookup) (call : Call kind σ τ)

theorem Parameter.yields (parameter : Parameter kind) (state : σ) (value : Value τ)
    (found : ((parameter.interpret lookup call).perform state).1 = .ok value) :
    Yields lookup call parameter value := by
  cases parameter with
  | number number =>
      cases found
      exact .number number
  | text text =>
      cases found
      exact .text text
  | selector nested =>
      obtain ⟨values, _, next⟩ := Action.ok_of_bind _ _ _ _ found
      obtain ⟨plugin, given, last⟩ := Action.ok_of_bind _ _ _ _ next
      cases last
      exact .selector nested values _ plugin given
  | reference name =>
      simp only [interpret] at found
      split at found
      · rename_i known present
        cases found
        exact .reference name known present
      · cases found

theorem Parameter.all_yield (parameters : List (Parameter kind)) (state : σ) (values : List (Value τ))
    (found : ((parameters.mapM (interpret lookup call)).perform state).1 = .ok values) :
    List.Forall₂ (Yields lookup call) parameters values := by
  induction parameters generalizing state values with
  | nil =>
      cases found
      exact .nil
  | cons parameter others hypothesis =>
      rw [List.mapM_cons] at found
      obtain ⟨value, first, next⟩ := Action.ok_of_bind _ _ _ _ found
      obtain ⟨following, second, last⟩ := Action.ok_of_bind _ _ _ _ next
      cases last
      exact .cons (parameter.yields lookup call state value first) (hypothesis _ _ second)

theorem Selector.set_parameters_sealed (separable : kind.Separable) (least : 0 < kind.least)
    (selector written : Selector kind) (parameters : List (Parameter kind))
    (isolated : ∀ nested, .selector nested ∈ parameters → nested.Sealed)
    (printed : selector.setParameters parameters = .ok written) (state : σ) (values : List (Value τ))
    (found : ((written.evaluate lookup call).perform state).1 = .ok values) :
    List.Forall₂ (Parameter.Yields lookup call) parameters values ∧
      (written.evaluate lookup call).perform state =
        (parameters.mapM (Parameter.interpret lookup call)).perform state := by
  have whole := Arguments.whole_of_ok _ _ _ _ state values
    (written.evaluate_ok lookup call state values found)
  have spelled := list_kept separable least selector written parameters isolated printed whole
  have alike := Parameter.list_written lookup call separable least selector written parameters printed
    spelled
  have same := alike.ok _ _ state values found
  refine ⟨Parameter.all_yield lookup call parameters state values same, ?_⟩
  exact Prod.ext (found.trans same.symm) (alike state).1

end Evaluation

namespace Selector

theorem set_parameters_apart :
    let provider : Call .plugin Nat Nat := fun _ _ count => (.ok count, count + 1)
    let parameters : List (Parameter .plugin) :=
      [.selector ⟨⟨"beta", by decide⟩, " (gamma) "⟩, .text ")"]
    (NameKind.plugin.Separable ∧ 0 < NameKind.plugin.least) ∧
      (∀ nested, .selector nested ∈ parameters → nested.Sealed) ∧
      ∃ written, setParameters ⟨⟨"alpha", by decide⟩, ""⟩ parameters = .ok written ∧
        ((written.evaluate (fun _ => none) provider).perform 0).1 = .ok [.provided 1, .text ")"] ∧
        List.Forall₂ (Parameter.Yields (fun _ => none) provider) parameters [.provided 1, .text ")"] := by
  intro provider parameters
  let gamma : Group .plugin := .filled (.last .none
    (.word (.name ⟨"gamma", by decide⟩ (by decide))) .none)
  have isolated : ∀ nested, .selector nested ∈ parameters → nested.Sealed := by
    intro nested member
    simp only [parameters, List.mem_cons, Parameter.selector.injEq, reduceCtorEq, List.not_mem_nil,
      or_false] at member
    subst member
    exact Phrase.sealed plugin_separable (.listed ⟨[' '], rfl⟩ gamma ⟨[' '], rfl⟩) _ rfl
  have printed : setParameters (⟨⟨"alpha", by decide⟩, ""⟩ : Selector .plugin) [.selector
      ⟨⟨"beta", by decide⟩, " (gamma) "⟩, .text ")"] =
      .ok ⟨⟨"alpha", by decide⟩, "(beta (gamma) , \")\")"⟩ := rfl
  have ran : ((evaluate ⟨⟨"alpha", by decide⟩, "(beta (gamma) , \")\")"⟩ (fun _ => none)
      provider).perform 0).1 = .ok [.provided 1, .text ")"] := by
    rw [evaluate_phrase _ _ provider plugin_separable (.listed .none (.filled
      (.more .none (.call ⟨"beta", by decide⟩ (by decide) ⟨[' '], rfl⟩ gamma) ⟨[' '], rfl⟩
        (.last ⟨[' '], rfl⟩ (.word (.text [.plain ')' (by decide)])) .none))) .none) rfl]
    rfl
  have kept := set_parameters_sealed (fun _ => none) provider plugin_separable (by decide) _ _ parameters
    isolated printed 0 _ ran
  exact ⟨⟨plugin_separable, by decide⟩, isolated, _, printed, ran, kept.1⟩

-- The comma of the first text adds a value, the letter of the second changes the name that is asked
-- for, and the open group of the third takes in the selector after it.
theorem set_parameters_unsealed :
    let provider : Call .plugin Nat Nat := fun name _ count =>
      if name.text = "delta" then (.error (.provider "none"), count) else (.ok count, count + 1)
    let intrudes (parameters : List (Parameter .plugin)) : Prop :=
      ∃ written values, setParameters ⟨⟨"alpha", by decide⟩, ""⟩ parameters = .ok written ∧
        ((written.evaluate (fun _ => none) provider).perform 0).1 = .ok values ∧
        ¬ List.Forall₂ (Parameter.Yields (fun _ => none) provider) parameters values
    intrudes [.selector ⟨⟨"beta", by decide⟩, ", gamma"⟩] ∧
      intrudes [.selector ⟨⟨"delta", by decide⟩, "s"⟩] ∧
      intrudes [.selector ⟨⟨"beta", by decide⟩, "(a"⟩, .selector ⟨⟨"gamma", by decide⟩, ")"⟩] := by
  intro provider intrudes
  refine ⟨?_, ?_, ?_⟩
  · let phrase : Phrase .plugin := .listed .none (.filled
      (.more .none (.word (.name ⟨"beta", by decide⟩ (by decide))) .none
        (.last ⟨[' '], rfl⟩ (.word (.name ⟨"gamma", by decide⟩ (by decide))) .none))) .none
    refine ⟨⟨⟨"alpha", by decide⟩, "(beta, gamma)"⟩, [.provided 0, .provided 1], rfl, ?_, ?_⟩
    · rw [evaluate_phrase _ _ provider plugin_separable phrase rfl]
      rfl
    · rintro (_ | ⟨_, rest⟩)
      cases rest
  · let phrase : Phrase .plugin := .listed .none (.filled
      (.last .none (.word (.name ⟨"deltas", by decide⟩ (by decide))) .none)) .none
    refine ⟨⟨⟨"alpha", by decide⟩, "(deltas)"⟩, [.provided 0], rfl, ?_, ?_⟩
    · rw [evaluate_phrase _ _ provider plugin_separable phrase rfl]
      rfl
    · rintro (_ | ⟨own, _⟩)
      cases own with
      | selector nested values state plugin given => cases given
  · let phrase : Phrase .plugin := .listed .none (.filled (.last .none
      (.call ⟨"beta", by decide⟩ (by decide) .none (.filled
        (.more .none (.word (.name ⟨"a", by decide⟩ (by decide))) .none
          (.last ⟨[' '], rfl⟩ (.word (.name ⟨"gamma", by decide⟩ (by decide))) .none)))) .none)) .none
    refine ⟨⟨⟨"alpha", by decide⟩, "(beta(a, gamma))"⟩, [.provided 2], rfl, ?_, ?_⟩
    · rw [evaluate_phrase _ _ provider plugin_separable phrase rfl]
      rfl
    · rintro (_ | ⟨_, rest⟩)
      cases rest

end Selector

end PluginNaming
