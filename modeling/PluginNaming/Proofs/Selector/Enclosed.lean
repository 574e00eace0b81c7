import PluginNaming.Proofs.Selector.Phrase

set_option autoImplicit false

namespace PluginNaming

open Text

variable {kind : NameKind}

def Ordinary (c : Char) : Prop :=
  c ≠ '"' ∧ c ≠ '(' ∧ c ≠ ')'

instance (c : Char) : Decidable (Ordinary c) :=
  inferInstanceAs (Decidable (_ ∧ _))

inductive Balanced : List Char → Prop where
  | empty : Balanced []
  | plain (c : Char) (rest : List Char) (free : Ordinary c) (others : Balanced rest) :
      Balanced (c :: rest)
  | quoted (pieces : List Piece) (rest : List Char) (others : Balanced rest) :
      Balanced ('"' :: (pieces.flatMap Piece.print ++ '"' :: rest))
  | nested (inner rest : List Char) (inside : Balanced inner) (others : Balanced rest) :
      Balanced ('(' :: (inner ++ ')' :: rest))

def Enclosed (text : List Char) : Prop :=
  ∃ inner, Balanced inner ∧ text = '(' :: (inner ++ [')'])

section Steps

variable (depth : Nat) (rest : List Char)

theorem skip_plain (c : Char) (free : Ordinary c) :
    skipGroup depth (c :: rest) = skipGroup depth rest := by
  obtain ⟨quote, opens, closes⟩ := free
  rw [skipGroup.eq_def]
  simp [quote, opens, closes]

theorem skip_quoted (pieces : List Piece) :
    skipGroup depth ('"' :: (pieces.flatMap Piece.print ++ '"' :: rest)) = skipGroup depth rest := by
  rw [skipGroup.eq_def]
  simp only [↓reduceIte]
  split
  · rename_i read
    rw [Piece.read] at read
    cases read
    rfl
  · rename_i read
    rw [Piece.read] at read
    cases read

theorem skip_unread (stop : Stop) (unread : readString rest = .error stop) :
    skipGroup depth ('"' :: rest) = .error stop := by
  rw [skipGroup.eq_def]
  simp only [↓reduceIte]
  split
  · rename_i read
    rw [unread] at read
    cases read
  · rename_i read
    rw [unread] at read
    cases read
    rfl

theorem skip_open : skipGroup depth ('(' :: rest) = skipGroup (depth + 1) rest := by
  rw [skipGroup.eq_def]
  rfl

theorem skip_last : skipGroup 0 (')' :: rest) = .ok rest := by
  rw [skipGroup.eq_def]
  rfl

theorem skip_close : skipGroup (depth + 1) (')' :: rest) = skipGroup depth rest := by
  rw [skipGroup.eq_def]
  rfl

end Steps

namespace Balanced

theorem append (first second : List Char) (left : Balanced first) (right : Balanced second) :
    Balanced (first ++ second) := by
  induction left with
  | empty => exact right
  | plain c rest free _ hypothesis => exact .plain c _ free hypothesis
  | quoted pieces rest _ hypothesis =>
      have whole := Balanced.quoted pieces _ hypothesis
      simpa using whole
  | nested inner rest inside _ _ hypothesis =>
      have whole := Balanced.nested inner _ inside hypothesis
      simpa using whole

theorem of_ordinary (text : List Char) (free : ∀ c ∈ text, Ordinary c) : Balanced text := by
  induction text with
  | nil => exact .empty
  | cons c rest hypothesis =>
      exact .plain c rest (free c List.mem_cons_self)
        (hypothesis fun d member => free d (List.mem_cons_of_mem _ member))

theorem skip (inner : List Char) (balanced : Balanced inner) (depth : Nat) (rest : List Char) :
    skipGroup depth (inner ++ rest) = skipGroup depth rest := by
  induction balanced generalizing depth rest with
  | empty => rfl
  | plain c more free _ hypothesis =>
      rw [List.cons_append, skip_plain _ _ c free, hypothesis]
  | quoted pieces more _ hypothesis =>
      rw [List.cons_append, List.append_assoc, List.cons_append, skip_quoted, hypothesis]
  | nested inside more _ _ first second =>
      rw [List.cons_append, List.append_assoc, List.cons_append, skip_open, first, skip_close, second]

end Balanced

-- What was skipped up to the end of the innermost group, and what there is to skip after it. The
-- induction is on the length, because a string and a group inside are skipped as a whole.
theorem skipped_inner (depth : Nat) (text rest : List Char) (found : skipGroup depth text = .ok rest) :
    ∃ inner after, Balanced inner ∧ text = inner ++ ')' :: after ∧
      (depth = 0 ∧ after = rest ∨
        ∃ outer, depth = outer + 1 ∧ skipGroup outer after = .ok rest) := by
  cases text with
  | nil =>
      rw [skipGroup.eq_def] at found
      cases found
  | cons c more =>
      by_cases quote : c = '"'
      · subst quote
        cases string : readString more with
        | error stop =>
            rw [skip_unread depth more stop string] at found
            cases found
        | ok read =>
            have shorter := read_string_shorter string
            obtain ⟨pieces, _, printed⟩ := Piece.taken _ _ _ string
            subst printed
            rw [skip_quoted] at found
            obtain ⟨inner, after, balanced, shape, ends⟩ := skipped_inner depth read.2 rest found
            refine ⟨_, after, .quoted pieces inner balanced, ?_, ends⟩
            simp [shape]
      · by_cases opens : c = '('
        · subst opens
          rw [skip_open] at found
          obtain ⟨inside, between, first, shape, ends⟩ := skipped_inner (depth + 1) more rest found
          rcases ends with ⟨none, _⟩ | ⟨outer, same, goesOn⟩
          · cases none
          · cases same
            have shorter : between.length < more.length := by
              rw [shape, List.length_append, List.length_cons]
              omega
            obtain ⟨inner, after, balanced, following, ends⟩ :=
              skipped_inner depth between rest goesOn
            refine ⟨_, after, .nested inside inner first balanced, ?_, ends⟩
            simp [shape, following]
        · by_cases closes : c = ')'
          · subst closes
            refine ⟨[], more, .empty, rfl, ?_⟩
            cases depth with
            | zero =>
                rw [skip_last] at found
                cases found
                exact .inl ⟨rfl, rfl⟩
            | succ outer =>
                rw [skip_close] at found
                exact .inr ⟨outer, rfl, found⟩
          · rw [skip_plain depth more c ⟨quote, opens, closes⟩] at found
            obtain ⟨inner, after, balanced, shape, ends⟩ := skipped_inner depth more rest found
            exact ⟨c :: inner, after, .plain c inner ⟨quote, opens, closes⟩ balanced,
              congrArg (c :: ·) shape, ends⟩
termination_by text.length

theorem group_present (inner : List Char) : takeGroup ('(' :: inner) ≠ .absent := by
  intro absent
  simp only [takeGroup, ↓reduceIte] at absent
  split at absent <;> cases absent

theorem group_opened (text : List Char) (present : takeGroup text ≠ .absent) :
    ∃ inner, text = '(' :: inner := by
  cases text with
  | nil => exact absurd rfl present
  | cons c inner =>
      by_cases opens : c = '('
      · exact ⟨inner, opens ▸ rfl⟩
      · rw [takeGroup, if_neg opens] at present
        exact absurd rfl present

theorem group_absent (text : List Char) (other : ∀ inner, text ≠ '(' :: inner) :
    takeGroup text = .absent := by
  by_cases absent : takeGroup text = .absent
  · exact absent
  · obtain ⟨inner, opened⟩ := group_opened text absent
    exact absurd opened (other inner)

theorem group_taken (text rest : List Char) (value : String)
    (found : takeGroup text = .token value rest) :
    Enclosed value.toList ∧ text = value.toList ++ rest := by
  cases text with
  | nil => cases found
  | cons c inner =>
      simp only [takeGroup] at found
      split at found
      · rename_i opens
        split at found
        · rename_i after skipped
          obtain ⟨inside, left, balanced, shape, ends⟩ := skipped_inner 0 inner after skipped
          rcases ends with ⟨_, same⟩ | ⟨outer, none, _⟩
          · simp only [Taken.token.injEq] at found
            obtain ⟨rfl, rfl⟩ := found
            subst opens same shape
            have size : ('(' :: (inside ++ ')' :: left)).length - left.length =
                ('(' :: (inside ++ [')'])).length := by
              simp only [List.length_cons, List.length_append, List.length_nil]
              omega
            have split : '(' :: (inside ++ ')' :: left) = '(' :: (inside ++ [')']) ++ left := by simp
            rw [size, String.toList_ofList, split, List.take_left]
            exact ⟨⟨inside, balanced, rfl⟩, rfl⟩
          · cases none
        · cases found
      · cases found

theorem take_enclosed (group rest : List Char) (enclosed : Enclosed group) :
    takeGroup (group ++ rest) = .token (String.ofList group) rest := by
  obtain ⟨inner, balanced, rfl⟩ := enclosed
  have skipped : skipGroup 0 (inner ++ ([')'] ++ rest)) = .ok rest :=
    (balanced.skip inner 0 _).trans (skip_last rest)
  have size : ('(' :: (inner ++ ([')'] ++ rest))).length - rest.length =
      ('(' :: (inner ++ [')'])).length := by
    simp only [List.length_cons, List.length_append, List.length_nil]
    omega
  have split : '(' :: (inner ++ ([')'] ++ rest)) = '(' :: (inner ++ [')']) ++ rest := by simp
  rw [List.cons_append, List.append_assoc, takeGroup, if_pos rfl, skipped]
  simp only
  rw [size, split, List.take_left]

theorem enclosed_unique (group other rest others : List Char) (enclosed : Enclosed group)
    (also : Enclosed other) (same : group ++ rest = other ++ others) :
    group = other ∧ rest = others := by
  have taken := take_enclosed group rest enclosed
  rw [same, take_enclosed other others also, Taken.token.injEq] at taken
  exact ⟨(String.ofList_inj.mp taken.1).symm, taken.2.symm⟩

theorem unmarked_ordinary (c : Char) (unmarked : isMark c = false) : Ordinary c := by
  simp only [isMark, Bool.or_eq_false_iff, beq_eq_false_iff_ne] at unmarked
  obtain ⟨⟨⟨_, opens⟩, closes⟩, quote⟩ := unmarked
  exact ⟨quote, opens, closes⟩

theorem blank_ordinary (c : Char) (blank : isBlank c = true) : Ordinary c := by
  refine ⟨?_, ?_, ?_⟩
  all_goals
    rintro rfl
    exact absurd blank (by decide)

theorem Gap.balanced (gap : Gap) : Balanced gap.blanks :=
  .of_ordinary _ fun c member => blank_ordinary c (List.all_eq_true.mp gap.blank c member)

theorem Name.unmarked (separable : kind.Separable) (name : Name kind) (some : name.text ≠ "") (c : Char)
    (member : c ∈ name.text.toList) : isMark c = false := by
  obtain ⟨first, others, shape, initial, parts⟩ := name_head name some
  rw [shape] at member
  cases member with
  | head => exact separable.first c initial
  | tail _ inside => exact separable.part c (List.all_eq_true.mp parts c inside)

namespace NumberWord

theorem digits_unmarked (digits : Digits) (c : Char) (member : c ∈ digits.list) : isMark c = false :=
  digit_not_mark c (List.all_eq_true.mp digits.digit c member)

theorem sign_unmarked (sign : Sign) (c : Char) (member : c ∈ sign.print) : isMark c = false := by
  cases sign with
  | none => cases member
  | plus =>
      cases List.mem_singleton.mp member
      decide
  | minus =>
      cases List.mem_singleton.mp member
      decide

theorem fraction_unmarked (fraction : Option Digits) (c : Char) (member : c ∈ printFraction fraction) :
    isMark c = false := by
  cases fraction with
  | none => cases member
  | some digits =>
      cases member with
      | head => decide
      | tail _ inside => exact digits_unmarked digits c inside

theorem exponent_unmarked (exponent : Option Exponent) (c : Char)
    (member : c ∈ printExponent exponent) : isMark c = false := by
  cases exponent with
  | none => cases member
  | some exponent =>
      cases member with
      | head =>
          cases exponent.capital with
          | false => decide
          | true => decide
      | tail _ inside =>
          rcases List.mem_append.mp inside with signed | digit
          · exact sign_unmarked _ c signed
          · exact digits_unmarked _ c digit

theorem unmarked (number : NumberWord) (c : Char) (member : c ∈ number.print) : isMark c = false := by
  simp only [print, List.mem_append] at member
  rcases member with signed | whole | fraction | exponent
  · exact sign_unmarked _ c signed
  · exact digits_unmarked _ c whole
  · exact fraction_unmarked _ c fraction
  · exact exponent_unmarked _ c exponent

end NumberWord

theorem Word.balanced (separable : kind.Separable) (word : Word kind) : Balanced word.print := by
  have unmarked : ∀ text : List Char, (∀ c ∈ text, isMark c = false) → Balanced text :=
    fun text free => .of_ordinary _ fun c member => unmarked_ordinary c (free c member)
  cases word with
  | reference wanted =>
      exact .plain '$' _ (by decide)
        (unmarked _ (wanted.unmarked environment_separable (environment_named wanted)))
  | name called some => exact unmarked _ (called.unmarked separable some)
  | number number => exact unmarked _ number.unmarked
  | text pieces => exact .quoted pieces [] .empty

mutual

theorem Term.balanced (separable : kind.Separable) (term : Term kind) : Balanced term.print := by
  cases term with
  | word leaf => exact leaf.balanced separable
  | call name written gap group =>
      obtain ⟨inner, inside, shape⟩ := group.enclosed separable
      rw [Term.print, shape]
      refine .append _ _ ((Word.name name written).balanced separable) (.append _ _ gap.balanced ?_)
      exact .nested inner [] inside .empty

theorem Group.enclosed (separable : kind.Separable) (group : Group kind) : Enclosed group.print := by
  cases group with
  | empty gap => exact ⟨gap.blanks, gap.balanced, rfl⟩
  | filled row =>
      obtain ⟨inner, balanced, shape⟩ := row.balanced separable
      exact ⟨inner, balanced, congrArg ('(' :: ·) shape⟩

theorem Row.balanced (separable : kind.Separable) (row : Row kind) :
    ∃ inner, Balanced inner ∧ row.print = inner ++ [')'] := by
  cases row with
  | last before term after =>
      have balanced := before.balanced.append _ _ ((term.balanced separable).append _ _ after.balanced)
      exact ⟨_, balanced, by simp [Row.print]⟩
  | more before term after others =>
      obtain ⟨inner, inside, shape⟩ := others.balanced separable
      have comma : Balanced (',' :: inner) := .plain ',' inner (by decide) inside
      have balanced := before.balanced.append _ _
        ((term.balanced separable).append _ _ (after.balanced.append _ _ comma))
      exact ⟨_, balanced, by simp [Row.print, shape]⟩

end

end PluginNaming
