import PluginNaming.Proofs.Selector.Phrase

set_option autoImplicit false

namespace PluginNaming

open Text Number

variable {kind : NameKind}

-- The bound on the rest is only there to make the reader end; nothing depends on it.
def Reads {α : Type} {short : List Char → Prop} (result : α × Option { rest // short rest })
    (value : α) (rest : List Char) : Prop :=
  ∃ bound, result = (value, some ⟨rest, bound⟩)

theorem read_word (word : Word kind) (rest : List Char) (closes : Closes rest) :
    Reads (readArgument word.lead rest) word.argument rest := by
  cases word with
  | reference wanted => exact ⟨Nat.le_refl _, by rw [Word.lead, readArgument, Word.argument]⟩
  | number written => exact ⟨Nat.le_refl _, by rw [Word.lead, readArgument, Word.argument]⟩
  | text pieces => exact ⟨Nat.le_refl _, by rw [Word.lead, readArgument, Word.argument]⟩
  | name called some =>
      refine ⟨Nat.le_refl _, ?_⟩
      obtain ⟨c, more, skipped, mark⟩ := closes
      rw [Word.lead, readArgument, Word.argument]
      split
      · rfl
      · rename_i found
        rw [skipped, List.cons.injEq] at found
        rw [if_neg]
        rw [← found.1]
        rcases mark with rfl | rfl <;> decide

theorem read_call (name : Name kind) (text inner rest : List Char) (arguments : Arguments kind)
    (opened : skipBlanks text = '(' :: inner) (reads : Reads (readArguments kind inner) arguments rest) :
    Reads (readArgument (.name name) text) (.call name arguments) rest := by
  obtain ⟨bound, read⟩ := reads
  have shorter := skip_blanks_length text
  rw [opened, List.length_cons] at shorter
  refine ⟨by omega, ?_⟩
  rw [readArgument]
  split
  · rename_i found
    rw [opened] at found
    exact absurd found (by simp)
  · rename_i found
    rw [opened, List.cons.injEq] at found
    obtain ⟨rfl, rfl⟩ := found
    rw [if_pos rfl, read]
    rfl

theorem read_empty (text rest : List Char) (closed : skipBlanks text = ')' :: rest) :
    Reads (readArguments kind text) .none rest := by
  have shorter := skip_blanks_length text
  rw [closed, List.length_cons] at shorter
  refine ⟨by omega, ?_⟩
  rw [readArguments]
  split
  · rename_i found
    rw [closed] at found
    exact absurd found (by simp)
  · rename_i found
    rw [closed, List.cons.injEq] at found
    obtain ⟨rfl, rfl⟩ := found
    rw [if_pos rfl]
    rfl

theorem read_filled (text rest : List Char) (arguments : Arguments kind)
    (c : Char) (more : List Char) (opened : skipBlanks text = c :: more) (other : c ≠ ')')
    (reads : Reads (readMore kind text) arguments rest) :
    Reads (readArguments kind text) arguments rest := by
  obtain ⟨bound, read⟩ := reads
  refine ⟨bound, ?_⟩
  rw [readArguments]
  split
  · exact read
  · rename_i found
    rw [opened, List.cons.injEq] at found
    obtain ⟨rfl, rfl⟩ := found
    rw [if_neg other, read]

theorem left_shorter (text afterLead reached rest : List Char) (lead : Lead kind) (c : Char)
    (leads : takeLead kind (skipBlanks text) = .token lead afterLead)
    (bound : reached.length ≤ afterLead.length) (found : skipBlanks reached = c :: rest) :
    rest.length < text.length := by
  have taken := take_lead_shorter _ _ _ _ leads
  have blanks := skip_blanks_length text
  have left := skip_blanks_length reached
  rw [found, List.length_cons] at left
  omega

theorem read_last (text afterLead reached rest : List Char) (lead : Lead kind) (first : Argument kind)
    (leads : takeLead kind (skipBlanks text) = .token lead afterLead)
    (reads : Reads (readArgument lead afterLead) first reached)
    (closed : skipBlanks reached = ')' :: rest) :
    Reads (readMore kind text) (.more first .none) rest := by
  obtain ⟨bound, read⟩ := reads
  refine ⟨left_shorter _ _ _ _ _ _ leads bound closed, ?_⟩
  rw [readMore]
  split
  · rename_i found
    cases leads.symm.trans found
  · rename_i found
    cases leads.symm.trans found
  · rename_i found
    cases leads.symm.trans found
    rw [read]
    dsimp only
    split
    · rename_i found
      cases closed.symm.trans found
    · rename_i found
      cases closed.symm.trans found
      rw [if_pos rfl]

theorem read_more (text afterLead reached following rest : List Char) (lead : Lead kind)
    (first : Argument kind) (others : Arguments kind)
    (leads : takeLead kind (skipBlanks text) = .token lead afterLead)
    (reads : Reads (readArgument lead afterLead) first reached)
    (parted : skipBlanks reached = ',' :: following)
    (more : Reads (readMore kind following) others rest) :
    Reads (readMore kind text) (.more first others) rest := by
  obtain ⟨bound, read⟩ := reads
  obtain ⟨within, tail⟩ := more
  have shorter := left_shorter _ _ _ _ _ _ leads bound parted
  refine ⟨by omega, ?_⟩
  rw [readMore]
  split
  · rename_i found
    cases leads.symm.trans found
  · rename_i found
    cases leads.symm.trans found
  · rename_i found
    cases leads.symm.trans found
    rw [read]
    dsimp only
    split
    · rename_i found
      cases parted.symm.trans found
    · rename_i found
      cases parted.symm.trans found
      rw [if_neg (by decide), if_pos rfl, tail]
      rfl

theorem Term.shown (separable : kind.Separable) (term : Term kind) (rest : List Char) :
    Stops isBlank (term.print ++ rest) := by
  obtain ⟨c, more, shape, visible, _⟩ := Word.print_head separable term.head
  rw [term.print_split, shape]
  exact stops_cons _ _ _ visible

theorem Row.inside_head (separable : kind.Separable) (row : Row kind) (rest : List Char) :
    ∃ c more, skipBlanks (row.print ++ rest) = c :: more ∧ c ≠ ')' := by
  cases row with
  | last before term after =>
      obtain ⟨c, more, shape, _, other⟩ := Word.print_head separable term.head
      rw [Row.print, List.append_assoc, List.append_assoc, before.skip _ (term.shown separable _),
        term.print_split, shape]
      exact ⟨c, _, rfl, other⟩
  | more before term after others =>
      obtain ⟨c, more, shape, _, other⟩ := Word.print_head separable term.head
      rw [Row.print, List.append_assoc, List.append_assoc, before.skip _ (term.shown separable _),
        term.print_split, shape]
      exact ⟨c, _, rfl, other⟩

theorem Term.leads (separable : kind.Separable) (before : Gap) (term : Term kind) (rest : List Char)
    (closes : Closes rest) :
    takeLead kind (skipBlanks (before.blanks ++ (term.print ++ rest))) =
      .token term.head.lead (term.behind ++ rest) := by
  rw [before.skip _ (term.shown separable rest), term.print_split, List.append_assoc]
  exact Word.take_lead separable term.head _ (term.behind_breaks rest closes)

-- Every term is read in front of a rest that closes it, so the induction is over all such rests.
mutual

theorem Term.read (separable : kind.Separable) (term : Term kind) (rest : List Char)
    (closes : Closes rest) :
    Reads (readArgument term.head.lead (term.behind ++ rest)) term.argument rest := by
  cases term with
  | word leaf => exact read_word leaf rest closes
  | call name written gap group =>
      refine read_call name _ (group.inside ++ rest) rest group.arguments ?_ (group.read separable rest)
      rw [Term.behind, group.print_open, List.append_assoc]
      exact gap.skip _ (stops_cons _ _ _ (by decide))

theorem Group.read (separable : kind.Separable) (group : Group kind) (rest : List Char) :
    Reads (readArguments kind (group.inside ++ rest)) group.arguments rest := by
  cases group with
  | empty gap =>
      refine read_empty _ rest ?_
      rw [Group.inside, List.append_assoc]
      exact gap.skip _ (stops_cons _ _ _ (by decide))
  | filled row =>
      obtain ⟨c, more, skipped, other⟩ := row.inside_head separable rest
      exact read_filled _ rest _ c more skipped other (row.read separable rest)

theorem Row.read (separable : kind.Separable) (row : Row kind) (rest : List Char) :
    Reads (readMore kind (row.print ++ rest)) row.arguments rest := by
  cases row with
  | last before term after =>
      have closes := closes_after after ')' rest (.inr rfl)
      have leads := term.leads separable before _ closes
      have reads := term.read separable _ closes
      have closed := after.skip (')' :: rest) (stops_cons _ _ _ (by decide))
      have shape : (Row.last before term after).print ++ rest =
          before.blanks ++ (term.print ++ (after.blanks ++ ')' :: rest)) := by simp [Row.print]
      rw [shape]
      exact read_last _ _ _ _ _ _ leads reads closed
  | more before term after others =>
      have closes := closes_after after ',' (others.print ++ rest) (.inl rfl)
      have leads := term.leads separable before _ closes
      have reads := term.read separable _ closes
      have parted := after.skip (',' :: (others.print ++ rest)) (stops_cons _ _ _ (by decide))
      have shape : (Row.more before term after others).print ++ rest = before.blanks ++
          (term.print ++ (after.blanks ++ ',' :: (others.print ++ rest))) := by simp [Row.print]
      rw [shape]
      exact read_more _ _ _ _ _ _ _ _ leads reads parted (others.read separable rest)

end

mutual

def Argument.Whole : Argument kind → Prop
  | .call _ arguments => arguments.Whole
  | _ => True

def Arguments.Whole : Arguments kind → Prop
  | .none => True
  | .more first others => first.Whole ∧ others.Whole
  | .broken _ => False

end

theorem break_off_broken (stop : Stop) :
    ∀ arguments : Arguments kind, ¬(arguments.breakOff stop).Whole
  | .none => id
  | .more _ others => fun whole => break_off_broken stop others whole.2
  | .broken _ => id

def leftOver {α : Type} {short : List Char → Prop} (result : α × Option { rest // short rest }) :
    Option (List Char) :=
  result.2.map Subtype.val

theorem read_argument_cases (lead : Lead kind) (text : List Char) :
    leftOver (readArgument lead text) = some text ∨
      ∃ name inner, lead = .name name ∧ skipBlanks text = '(' :: inner ∧
        (readArgument lead text).1 = .call name (readArguments kind inner).1 ∧
        leftOver (readArgument lead text) = leftOver (readArguments kind inner) := by
  cases lead with
  | reference wanted => exact .inl (by rw [readArgument]; rfl)
  | number value => exact .inl (by rw [readArgument]; rfl)
  | text value => exact .inl (by rw [readArgument]; rfl)
  | name name =>
      rw [readArgument]
      split
      · exact .inl rfl
      · rename_i c inner opened
        by_cases group : c = '('
        · subst group
          refine .inr ⟨name, inner, rfl, opened, rfl, ?_⟩
          simp [leftOver, Function.comp_def]
        · rw [if_neg group]
          exact .inl rfl

theorem read_arguments_cases (text : List Char) :
    (∃ rest, skipBlanks text = ')' :: rest ∧ leftOver (readArguments kind text) = some rest) ∨
      ((readArguments kind text).1 = (readMore kind text).1 ∧
        leftOver (readArguments kind text) = leftOver (readMore kind text)) := by
  rw [readArguments]
  split
  · exact .inr ⟨rfl, rfl⟩
  · rename_i c rest closed
    by_cases close : c = ')'
    · subst close
      exact .inl ⟨rest, closed, rfl⟩
    · rw [if_neg close]
      exact .inr ⟨rfl, rfl⟩

theorem read_more_cases (text : List Char) (whole : (readMore kind text).1.Whole) :
    ∃ (lead : Lead kind) (afterLead : List Char),
      takeLead kind (skipBlanks text) = .token lead afterLead ∧
      (readArgument lead afterLead).1.Whole ∧ ∀ reached, leftOver (readArgument lead afterLead) = some reached →
        (∃ rest, skipBlanks reached = ')' :: rest ∧ leftOver (readMore kind text) = some rest) ∨
        ∃ following, skipBlanks reached = ',' :: following ∧ (readMore kind following).1.Whole ∧
          leftOver (readMore kind text) = leftOver (readMore kind following) := by
  revert whole
  rw [readMore]
  split
  · exact fun whole => absurd whole id
  · split
    · exact fun whole => absurd whole id
    · exact fun whole => absurd whole id
  · rename_i lead afterLead leads
    intro whole
    refine ⟨lead, afterLead, leads, ?_⟩
    revert whole
    cases read : readArgument lead afterLead with
    | mk first remaining =>
      cases remaining with
      | none => exact fun whole => ⟨whole.1, fun reached found => by cases found⟩
      | some remaining =>
          dsimp only
          split
          · exact fun whole => absurd whole.2 id
          · rename_i c rest following
            split
            · rename_i close
              subst close
              intro whole
              refine ⟨whole.1, fun reached found => .inl ⟨rest, ?_, rfl⟩⟩
              cases found
              exact following
            · split
              · rename_i comma
                subst comma
                intro whole
                refine ⟨whole.1, fun reached found => .inr ⟨rest, ?_, whole.2, ?_⟩⟩
                · cases found
                  exact following
                · simp [leftOver, Function.comp_def]
              · exact fun whole => absurd whole.2 id

theorem left_bound {α : Type} {short : List Char → Prop} (result : α × Option { rest // short rest })
    (rest : List Char) (found : leftOver result = some rest) : short rest := by
  obtain ⟨remaining, _, rfl⟩ := Option.map_eq_some_iff.mp found
  exact remaining.2

theorem word_of_name (name : Name kind) (word : Word kind) (same : word.lead = .name name) :
    ∃ written, word = .name name written := by
  cases word with
  | name called written =>
      cases same
      exact ⟨written, rfl⟩
  | _ => cases same

-- The measures are those by which the readers themselves end.
mutual

theorem argument_sound (lead : Lead kind) (text : List Char) (whole : (readArgument lead text).1.Whole)
    (word : Word kind) (leads : word.lead = lead) :
    ∃ (term : Term kind) (rest : List Char), leftOver (readArgument lead text) = some rest ∧
      word.print ++ text = term.print ++ rest := by
  rcases read_argument_cases lead text with alone | ⟨name, inner, named, opened, call, same⟩
  · exact ⟨.word word, text, alone, rfl⟩
  · rw [call] at whole
    have shorter : inner.length < text.length := by
      have bound := skip_blanks_length text
      rw [opened, List.length_cons] at bound
      omega
    obtain ⟨group, rest, remains, printed⟩ := arguments_sound inner whole
    obtain ⟨written, rfl⟩ := word_of_name name word (leads.trans named)
    refine ⟨.call name written (.before text) group, rest, same.trans remains, ?_⟩
    rw [Term.print, List.append_assoc, List.append_assoc, ← printed, ← opened, Gap.before_append]
    rfl
termination_by (text.length, 0)

theorem arguments_sound (text : List Char) (whole : (readArguments kind text).1.Whole) :
    ∃ (group : Group kind) (rest : List Char), leftOver (readArguments kind text) = some rest ∧
      '(' :: text = group.print ++ rest := by
  rcases read_arguments_cases text with ⟨rest, closed, remains⟩ | ⟨same, remains⟩
  · refine ⟨.empty (.before text), rest, remains, ?_⟩
    have printed := Gap.before_append text
    rw [closed] at printed
    simp [Group.print, printed]
  · rw [same] at whole
    obtain ⟨row, rest, found, printed⟩ := row_sound text whole
    exact ⟨.filled row, rest, remains.trans found, congrArg ('(' :: ·) printed⟩
termination_by (text.length, 2)

theorem row_sound (text : List Char) (whole : (readMore kind text).1.Whole) :
    ∃ (row : Row kind) (rest : List Char), leftOver (readMore kind text) = some rest ∧
      text = row.print ++ rest := by
  obtain ⟨lead, afterLead, taken, first, goesOn⟩ := read_more_cases text whole
  obtain ⟨word, leads, begins⟩ := Word.lead_taken _ _ _ taken
  have shorter : afterLead.length < text.length :=
    Nat.lt_of_lt_of_le (take_lead_shorter _ _ _ _ taken) (skip_blanks_length text)
  obtain ⟨term, reached, remains, printed⟩ := argument_sound lead afterLead first word leads
  have shape : ∀ c others, skipBlanks reached = c :: others → (Gap.before text).blanks ++
      (term.print ++ ((Gap.before reached).blanks ++ c :: others)) = text := by
    intro c others found
    rw [← found, Gap.before_append, ← printed, ← begins, Gap.before_append]
  rcases goesOn reached remains with ⟨rest, closed, ends⟩ | ⟨following, parted, others, ends⟩
  · refine ⟨.last (.before text) term (.before reached), rest, ends, ?_⟩
    have split := (shape _ _ closed).symm
    simpa [Row.print] using split
  · have less : following.length < text.length :=
      left_shorter _ _ _ _ _ _ taken (left_bound _ _ remains) parted
    obtain ⟨row, rest, found, inner⟩ := row_sound following others
    refine ⟨.more (.before text) term (.before reached) row, rest, ends.trans found, ?_⟩
    have split := (shape _ _ parted).symm
    rw [inner] at split
    simpa [Row.print] using split
termination_by (text.length, 1)

end

theorem Group.shown (group : Group kind) (rest : List Char) : Stops isBlank (group.print ++ rest) := by
  rw [group.print_open]
  exact stops_cons _ _ _ (by decide)

theorem closes_not_open (rest : List Char) (gap : Gap) (group : Group kind) (others : List Char)
    (closes : Closes rest) : rest ≠ gap.blanks ++ (group.print ++ others) := by
  rintro rfl
  obtain ⟨c, more, skipped, mark⟩ := closes
  rw [gap.skip _ (group.shown others), group.print_open, List.cons_append, List.cons.injEq] at skipped
  rw [← skipped.1] at mark
  exact absurd mark (by decide)

theorem closed_not_row (separable : kind.Separable) (gap : Gap) (rest : List Char) (row : Row kind)
    (others : List Char) : gap.blanks ++ ')' :: rest ≠ row.print ++ others := by
  intro same
  obtain ⟨c, more, skipped, other⟩ := row.inside_head separable others
  rw [← same, gap.skip _ (stops_cons _ _ _ (by decide)), List.cons.injEq] at skipped
  exact other skipped.1.symm

theorem entry_unique (separable : kind.Separable) (before before' : Gap) (term other : Term kind)
    (after after' : Gap) (c d : Char) (rest others : List Char) (mark : c = ',' ∨ c = ')')
    (ends : d = ',' ∨ d = ')')
    (cancels : ∀ rest others, Closes rest → Closes others →
      term.print ++ rest = other.print ++ others → term = other ∧ rest = others)
    (same : before.blanks ++ (term.print ++ (after.blanks ++ c :: rest)) =
      before'.blanks ++ (other.print ++ (after'.blanks ++ d :: others))) :
    before = before' ∧ term = other ∧ after = after' ∧ c = d ∧ rest = others := by
  obtain ⟨gaps, terms⟩ := before.unique before' _ _ (term.shown separable _)
    (other.shown separable _) same
  obtain ⟨equal, behinds⟩ := cancels _ _ (closes_after after c rest mark)
    (closes_after after' d others ends) terms
  have visible : ∀ e : Char, e = ',' ∨ e = ')' → isBlank e = false := by
    rintro e (rfl | rfl) <;> decide
  obtain ⟨trailing, left⟩ := after.unique after' _ _ (stops_cons _ _ _ (visible c mark))
    (stops_cons _ _ _ (visible d ends)) behinds
  exact ⟨gaps, equal, trailing, List.cons.inj left⟩

-- Where two trees part, one of them goes on with a list and the other one with a comma or an end.
mutual

theorem Term.unique (separable : kind.Separable) (term other : Term kind) (rest others : List Char)
    (closes : Closes rest) (ends : Closes others)
    (same : term.print ++ rest = other.print ++ others) : term = other ∧ rest = others := by
  rw [term.print_split, other.print_split, List.append_assoc, List.append_assoc] at same
  obtain ⟨heads, behinds⟩ := Word.unique separable _ _ _ _ (term.behind_breaks rest closes)
    (other.behind_breaks others ends) same
  cases term with
  | word leaf =>
      cases other with
      | word leaf' =>
          cases heads
          exact ⟨rfl, behinds⟩
      | call name written gap group =>
          rw [Term.behind, Term.behind, List.append_assoc] at behinds
          exact absurd behinds (closes_not_open rest gap group others closes)
  | call name written gap group =>
      cases other with
      | word leaf =>
          rw [Term.behind, Term.behind, List.append_assoc] at behinds
          exact absurd behinds.symm (closes_not_open others gap group rest ends)
      | call name' written' gap' group' =>
          cases heads
          rw [Term.behind, Term.behind, List.append_assoc, List.append_assoc] at behinds
          obtain ⟨rfl, groups⟩ := gap.unique gap' _ _ (group.shown rest) (group'.shown others) behinds
          obtain ⟨rfl, left⟩ := group.unique separable group' rest others groups
          exact ⟨rfl, left⟩

theorem Group.unique (separable : kind.Separable) (group other : Group kind)
    (rest others : List Char) (same : group.print ++ rest = other.print ++ others) :
    group = other ∧ rest = others := by
  rw [group.print_open, other.print_open, List.cons_append, List.cons_append, List.cons.injEq] at same
  have insides := same.2
  cases group with
  | empty gap =>
      rw [Group.inside, List.append_assoc] at insides
      cases other with
      | empty gap' =>
          rw [Group.inside, List.append_assoc] at insides
          obtain ⟨rfl, left⟩ := gap.unique gap' _ _ (stops_cons _ _ _ (by decide))
            (stops_cons _ _ _ (by decide)) insides
          exact ⟨rfl, (List.cons.inj left).2⟩
      | filled row => exact absurd insides (closed_not_row separable gap rest row others)
  | filled row =>
      cases other with
      | empty gap =>
          rw [Group.inside, Group.inside, List.append_assoc] at insides
          exact absurd insides.symm (closed_not_row separable gap others row rest)
      | filled row' =>
          obtain ⟨rfl, left⟩ := row.unique separable row' rest others insides
          exact ⟨rfl, left⟩

theorem Row.unique (separable : kind.Separable) (row other : Row kind) (rest others : List Char)
    (same : row.print ++ rest = other.print ++ others) : row = other ∧ rest = others := by
  cases row with
  | last before term after =>
      cases other with
      | last before' term' after' =>
          simp only [Row.print, List.append_assoc, List.singleton_append] at same
          obtain ⟨rfl, rfl, rfl, _, left⟩ := entry_unique separable _ _ _ _ _ _ _ _ _ _
            (.inr rfl) (.inr rfl) (term.unique separable term') same
          exact ⟨rfl, left⟩
      | more before' term' after' following' =>
          simp only [Row.print, List.append_assoc, List.cons_append, List.nil_append] at same
          obtain ⟨_, _, _, mark, _⟩ := entry_unique separable _ _ _ _ _ _ _ _ _ _
            (.inr rfl) (.inl rfl) (term.unique separable term') same
          exact absurd mark (by decide)
  | more before term after following =>
      cases other with
      | last before' term' after' =>
          simp only [Row.print, List.append_assoc, List.cons_append, List.nil_append] at same
          obtain ⟨_, _, _, mark, _⟩ := entry_unique separable _ _ _ _ _ _ _ _ _ _
            (.inl rfl) (.inr rfl) (term.unique separable term') same
          exact absurd mark (by decide)
      | more before' term' after' following' =>
          simp only [Row.print, List.append_assoc, List.cons_append] at same
          obtain ⟨rfl, rfl, rfl, _, remaining⟩ := entry_unique separable _ _ _ _ _ _ _ _ _ _
            (.inl rfl) (.inl rfl) (term.unique separable term') same
          obtain ⟨rfl, left⟩ := following.unique separable following' rest others remaining
          exact ⟨rfl, left⟩

end

mutual

theorem Term.whole : ∀ term : Term kind, term.argument.Whole
  | .word leaf => by cases leaf <;> trivial
  | .call _ _ _ group => group.whole

theorem Group.whole : ∀ group : Group kind, group.arguments.Whole
  | .empty _ => trivial
  | .filled row => row.whole

theorem Row.whole : ∀ row : Row kind, row.arguments.Whole
  | .last _ term _ => ⟨term.whole, trivial⟩
  | .more _ term _ others => ⟨term.whole, others.whole⟩

end

namespace Phrase

theorem of_text (separable : kind.Separable) (phrase : Phrase kind) :
    Arguments.ofText kind phrase.print = phrase.arguments := by
  unfold Arguments.ofText
  cases phrase with
  | blank gap =>
      rw [print, gap.skip_all]
      rfl
  | listed before group after =>
      obtain ⟨bound, read⟩ := group.read separable after.blanks
      rw [print, before.skip _ (group.shown after.blanks), group.print_open, List.cons_append]
      simp only [↓reduceIte, read, after.skip_all]
      rfl

theorem of_whole (text : List Char) (whole : (Arguments.ofText kind text).Whole) :
    ∃ phrase : Phrase kind, phrase.print = text := by
  have before := Gap.before_append text
  revert whole
  unfold Arguments.ofText
  split
  · rename_i empty
    intro _
    rw [empty, List.append_nil] at before
    exact ⟨.blank (.before text), before⟩
  · rename_i c inner opened
    split
    · rename_i parenthesis
      split
      · rename_i arguments read
        intro whole
        obtain ⟨group, rest, remains, _⟩ := arguments_sound inner (by rw [read]; exact whole)
        rw [read] at remains
        exact absurd remains (by simp [leftOver])
      · rename_i arguments rest read
        split
        · rename_i ended
          intro whole
          obtain ⟨group, after, remains, printed⟩ := arguments_sound inner (by rw [read]; exact whole)
          rw [read] at remains
          cases remains
          have trailing := Gap.before_append rest.1
          rw [ended, List.append_nil] at trailing
          refine ⟨.listed (.before text) group (.before rest.1), ?_⟩
          rw [print, trailing, ← printed, ← parenthesis, ← opened, before]
        · exact fun whole => absurd whole (break_off_broken _ _)
    · exact fun whole => absurd whole id

theorem whole : ∀ phrase : Phrase kind, phrase.arguments.Whole
  | .blank _ => trivial
  | .listed _ group _ => group.whole

theorem whole_iff (separable : kind.Separable) (text : List Char) :
    (Arguments.ofText kind text).Whole ↔ ∃ phrase : Phrase kind, phrase.print = text := by
  constructor
  · exact of_whole text
  · rintro ⟨phrase, rfl⟩
    rw [phrase.of_text separable]
    exact phrase.whole

theorem blank_not_listed (gap before after : Gap) (group : Group kind) :
    gap.blanks ≠ before.blanks ++ (group.print ++ after.blanks) := by
  intro same
  have skipped := gap.skip_all
  rw [same, before.skip _ (group.shown after.blanks), group.print_open] at skipped
  cases skipped

theorem unique (separable : kind.Separable) (phrase other : Phrase kind)
    (same : phrase.print = other.print) : phrase = other := by
  cases phrase with
  | blank gap =>
      cases other with
      | blank gap' => exact congrArg blank (Gap.ext same)
      | listed before group after => exact absurd same (blank_not_listed gap before after group)
  | listed before group after =>
      cases other with
      | blank gap => exact absurd same.symm (blank_not_listed gap before after group)
      | listed before' group' after' =>
          obtain ⟨rfl, groups⟩ := before.unique before' _ _ (group.shown after.blanks)
            (group'.shown after'.blanks) same
          obtain ⟨rfl, trailing⟩ := group.unique separable group' _ _ groups
          rw [Gap.ext trailing]

end Phrase

end PluginNaming
