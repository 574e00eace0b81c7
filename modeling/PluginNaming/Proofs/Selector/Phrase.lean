import PluginNaming.Proofs.Selector.Word

/- phrase := blank* | blank* list blank*
   list := '(' blank* ')' | '(' row ')'
   row := blank* term blank* (',' blank* term blank*)*
   term := word | name blank* list -/

set_option autoImplicit false

namespace PluginNaming

open Text Number

variable {kind : NameKind}

mutual

inductive Term (kind : NameKind) where
  | word (word : Word kind)
  | call (name : Name kind) (some : name.text ≠ "") (gap : Gap) (group : Group kind)

inductive Group (kind : NameKind) where
  | empty (gap : Gap)
  | filled (row : Row kind)

inductive Row (kind : NameKind) where
  | last (before : Gap) (term : Term kind) (after : Gap)
  | more (before : Gap) (term : Term kind) (after : Gap) (others : Row kind)

end

inductive Phrase (kind : NameKind) where
  | blank (gap : Gap)
  | listed (before : Gap) (group : Group kind) (after : Gap)

mutual

def Term.print : Term kind → List Char
  | .word leaf => leaf.print
  | .call name _ gap group => name.text.toList ++ (gap.blanks ++ group.print)

def Group.print : Group kind → List Char
  | .empty gap => '(' :: (gap.blanks ++ [')'])
  | .filled row => '(' :: row.print

def Row.print : Row kind → List Char
  | .last before term after => before.blanks ++ (term.print ++ (after.blanks ++ [')']))
  | .more before term after others =>
      before.blanks ++ (term.print ++ (after.blanks ++ ',' :: others.print))

end

def Phrase.print : Phrase kind → List Char
  | .blank gap => gap.blanks
  | .listed before group after => before.blanks ++ (group.print ++ after.blanks)

def Word.argument : Word kind → Argument kind
  | .reference wanted => .reference wanted
  | .name called _ => .call called .none
  | .number written => .number written.value
  | .text pieces => .text (String.ofList (pieces.map Piece.value))

mutual

def Term.argument : Term kind → Argument kind
  | .word leaf => leaf.argument
  | .call name _ _ group => .call name group.arguments

def Group.arguments : Group kind → Arguments kind
  | .empty _ => .none
  | .filled row => row.arguments

def Row.arguments : Row kind → Arguments kind
  | .last _ term _ => .more term.argument .none
  | .more _ term _ others => .more term.argument others.arguments

end

def Phrase.arguments : Phrase kind → Arguments kind
  | .blank _ => .none
  | .listed _ group _ => group.arguments

namespace Term

def head : Term kind → Word kind
  | .word leaf => leaf
  | .call name written _ _ => .name name written

def behind : Term kind → List Char
  | .word _ => []
  | .call _ _ gap group => gap.blanks ++ group.print

theorem print_split (term : Term kind) : term.print = term.head.print ++ term.behind := by
  cases term with
  | word leaf => simp [print, head, behind]
  | call name written gap group => simp [print, head, behind, Word.print]

end Term

def Group.inside : Group kind → List Char
  | .empty gap => gap.blanks ++ [')']
  | .filled row => row.print

theorem Group.print_open (group : Group kind) : group.print = '(' :: group.inside := by
  cases group <;> rfl

def Closes (rest : List Char) : Prop :=
  ∃ c more, skipBlanks rest = c :: more ∧ (c = ',' ∨ c = ')')

theorem closes_after (gap : Gap) (c : Char) (rest : List Char) (mark : c = ',' ∨ c = ')') :
    Closes (gap.blanks ++ c :: rest) := by
  refine ⟨c, rest, gap.skip _ (stops_cons _ _ _ ?_), mark⟩
  rcases mark with rfl | rfl <;> decide

theorem breaks_of_skip (c : Char) (rest more : List Char) (skipped : skipBlanks rest = c :: more)
    (mark : isMark c = true) : Breaks rest := by
  intro first found
  cases rest with
  | nil => simp at found
  | cons d others =>
      cases found
      by_cases blank : isBlank first = true
      · simp [isMark, blank]
      · rw [skipBlanks, List.dropWhile_cons_of_neg blank, List.cons.injEq] at skipped
        exact skipped.1 ▸ mark

theorem closes_breaks (rest : List Char) (closes : Closes rest) : Breaks rest := by
  obtain ⟨c, more, skipped, mark⟩ := closes
  refine breaks_of_skip c rest more skipped ?_
  rcases mark with rfl | rfl <;> decide

theorem gap_breaks (gap : Gap) (group : Group kind) (rest : List Char) :
    Breaks (gap.blanks ++ (group.print ++ rest)) := by
  refine breaks_of_skip '(' _ (group.inside ++ rest) ?_ (by decide)
  rw [group.print_open, List.cons_append]
  exact gap.skip _ (stops_cons _ _ _ (by decide))

theorem Term.behind_breaks (term : Term kind) (rest : List Char) (closes : Closes rest) :
    Breaks (term.behind ++ rest) := by
  cases term with
  | word leaf => exact closes_breaks rest closes
  | call name written gap group =>
      rw [behind, List.append_assoc]
      exact gap_breaks gap group rest

end PluginNaming
