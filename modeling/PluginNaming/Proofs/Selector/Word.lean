import PluginNaming.Proofs.Selector.Number
import PluginNaming.Selector.Arguments

set_option autoImplicit false

namespace PluginNaming

open Text Number

variable {kind : NameKind}

-- The names of such a kind can be told from every other word by their first character, and end
-- where a list goes on.
structure NameKind.Separable (kind : NameKind) : Prop where
  digit : ∀ c, kind.initial c = true → c.isDigit = false
  sign : ∀ c, kind.initial c = true → c ≠ '+' ∧ c ≠ '-'
  dollar : ∀ c, kind.initial c = true → c ≠ '$'
  quote : ∀ c, kind.initial c = true → c ≠ '"'
  first : ∀ c, kind.initial c = true → isMark c = false
  part : ∀ c, kind.part c = true → isMark c = false

theorem mark_not_part (separable : kind.Separable) (c : Char) (mark : isMark c = true) :
    kind.part c = false := by
  rw [← Bool.not_eq_true]
  intro part
  rw [separable.part c part] at mark
  exact Bool.false_ne_true mark

theorem letter_bounds (c : Char) (letter : c.isAlpha = true) :
    (65 ≤ c.toNat ∧ c.toNat ≤ 90) ∨ (97 ≤ c.toNat ∧ c.toNat ≤ 122) := by
  rcases Bool.or_eq_true_iff.mp letter with upper | lower
  · exact .inl (of_decide_eq_true upper)
  · obtain ⟨least, most⟩ := Bool.and_eq_true_iff.mp lower
    exact .inr ⟨of_decide_eq_true least, of_decide_eq_true most⟩

theorem letter_not_mark (c : Char) (letter : c.isAlpha = true) : isMark c = false := by
  have bounds := letter_bounds c letter
  exact visible_not_mark c (by omega) (by omega)

theorem plugin_part_not_mark (c : Char) (part : NameKind.isPluginPart c = true) :
    isMark c = false := by
  simp only [NameKind.isPluginPart, Char.isAlphanum, Bool.or_eq_true, beq_iff_eq] at part
  rcases part with (letter | digit) | rfl
  · exact letter_not_mark c letter
  · exact digit_not_mark c digit
  · decide

theorem letter_apart (c d : Char) (letter : c.isAlpha = true) (other : d.isAlpha = false) :
    c ≠ d := by
  rintro rfl
  rw [letter] at other
  exact Bool.false_ne_true other.symm

theorem separable_of_letters (kind : NameKind)
    (letters : ∀ c, kind.initial c = true → c.isAlpha = true)
    (part : ∀ c, kind.part c = true → isMark c = false) : kind.Separable where
  digit c initial := by
    have bounds := letter_bounds c (letters c initial)
    rw [← Bool.not_eq_true]
    intro digit
    have digits := digit_bounds c digit
    omega
  sign c initial :=
    ⟨letter_apart c '+' (letters c initial) rfl, letter_apart c '-' (letters c initial) rfl⟩
  dollar c initial := letter_apart c '$' (letters c initial) rfl
  quote c initial := letter_apart c '"' (letters c initial) rfl
  first c initial := letter_not_mark c (letters c initial)
  part := part

theorem plugin_separable : NameKind.plugin.Separable :=
  separable_of_letters _ (fun _ initial => initial) plugin_part_not_mark

theorem provider_separable : NameKind.provider.Separable :=
  separable_of_letters _ (fun _ initial => initial) plugin_part_not_mark

theorem environment_part_not_mark (c : Char) (part : NameKind.environment.part c = true) :
    isMark c = false := by
  simp only [NameKind.environment, Bool.or_eq_true, beq_iff_eq] at part
  rcases part with (part | rfl) | rfl
  · exact plugin_part_not_mark c part
  · decide
  · decide

theorem environment_separable : NameKind.environment.Separable :=
  separable_of_letters _ (fun _ initial => initial) environment_part_not_mark

theorem name_head (name : Name kind) (some : name.text ≠ "") :
    ∃ first others, name.text.toList = first :: others ∧ kind.initial first = true ∧
      others.all kind.part = true := by
  have valid := name.valid
  cases shape : name.text.toList with
  | nil => exact absurd (String.toList_eq_nil_iff.mp shape) some
  | cons first others =>
      rw [shape, NameKind.admits, Bool.and_eq_true, NameKind.spells, Bool.and_eq_true] at valid
      exact ⟨first, others, rfl, valid.1⟩

structure NameKind.Avoids (kind : NameKind) (test : Char → Bool) : Prop where
  initial : ∀ c, kind.initial c = true → test c = false
  part : ∀ c, kind.part c = true → test c = false

section Avoiding

variable {test : Char → Bool} (avoids : kind.Avoids test)

include avoids

theorem name_avoids (name : Name kind) : ∀ c ∈ name.text.toList, test c = false := by
  intro c member
  by_cases empty : name.text = ""
  · simp [empty] at member
  · obtain ⟨first, others, shape, initial, parts⟩ := name_head name empty
    rw [shape] at member
    rcases List.mem_cons.mp member with rfl | later
    · exact avoids.initial c initial
    · exact avoids.part c (List.all_eq_true.mp parts c later)

theorem avoids_stops (rest : List Char) (ends : Stops (fun c => !test c) rest) :
    Stops kind.part rest := by
  intro c first
  have ending := ends c first
  rw [← Bool.not_eq_true]
  intro part
  simp [avoids.part c part] at ending

end Avoiding

theorem take_name_written (name : Name kind) (rest : List Char) (some : name.text ≠ "")
    (stops : Stops kind.part rest) : takeName kind (name.text.toList ++ rest) = .token name rest := by
  obtain ⟨first, others, shape, initial, parts⟩ := name_head name some
  have valid := name.valid
  have taken := take_run kind.part others rest parts stops
  have left := drop_run kind.part others rest parts stops
  have same : ∀ other : Name kind, other.text.toList = first :: others → other = name :=
    fun other equal => Name.eq_of_text _ _ (String.toList_inj.mp (equal.trans shape.symm))
  rw [shape] at valid ⊢
  simp only [takeName, List.cons_append, initial, taken, left, valid, ↓reduceIte, ↓reduceDIte,
    Taken.token.injEq, and_true]
  exact same _ String.toList_ofList

theorem name_taken (text rest : List Char) (name : Name kind)
    (found : takeName kind text = .token name rest) :
    name.text ≠ "" ∧ text = name.text.toList ++ rest := by
  cases text with
  | nil => simp [takeName] at found
  | cons first others =>
      simp only [takeName] at found
      split at found
      · split at found
        · simp only [Taken.token.injEq] at found
          obtain ⟨rfl, rfl⟩ := found
          refine ⟨?_, ?_⟩
          · intro empty
            have listed := congrArg String.toList empty
            simp at listed
          · rw [String.toList_ofList, List.cons_append, List.takeWhile_append_dropWhile]
        · simp at found
      · simp at found

def escapes : List (Char × Char) :=
  [('"', '"'), ('\'', '\''), ('\\', '\\'), ('n', '\n'), ('r', '\r'), ('t', '\t'), ('0', '\x00')]

theorem unescape_iff (c value : Char) : unescape? c = some value ↔ (c, value) ∈ escapes := by
  simp only [escapes, List.mem_cons, Prod.mk.injEq, List.not_mem_nil, or_false]
  unfold unescape?
  grind

inductive Piece where
  | plain (c : Char) (free : c ≠ '"' ∧ c ≠ '\\')
  | escape (c value : Char) (means : (c, value) ∈ escapes)

namespace Piece

def print : Piece → List Char
  | .plain c _ => [c]
  | .escape c _ _ => ['\\', c]

def value : Piece → Char
  | .plain c _ => c
  | .escape _ value _ => value

theorem read_close (rest : List Char) : readString ('"' :: rest) = .ok ([], rest) := by
  rw [readString.eq_def]
  rfl

theorem read_piece (piece : Piece) (rest : List Char) :
    readString (piece.print ++ rest) =
      (readString rest).map fun read => (piece.value :: read.1, read.2) := by
  rw [readString.eq_def]
  cases piece with
  | plain c free => simp [print, value, free.1, free.2]
  | escape c meant means => simp [print, value, (unescape_iff c meant).mpr means]

theorem read (pieces : List Piece) (rest : List Char) :
    readString (pieces.flatMap print ++ '"' :: rest) = .ok (pieces.map value, rest) := by
  induction pieces with
  | nil => exact read_close rest
  | cons piece pieces hypothesis =>
      rw [List.flatMap_cons, List.append_assoc, read_piece, hypothesis]
      rfl

theorem taken (text value rest : List Char) (found : readString text = .ok (value, rest)) :
    ∃ pieces : List Piece, pieces.map Piece.value = value ∧
      text = pieces.flatMap print ++ '"' :: rest := by
  fun_induction readString text generalizing value rest with
  | case1 => simp at found
  | case2 rest' =>
      simp only [Except.ok.injEq, Prod.mk.injEq] at found
      obtain ⟨rfl, rfl⟩ := found
      exact ⟨[], rfl, rfl⟩
  | case3 => simp at found
  | case4 => simp at found
  | case5 e after plain means _ hypothesis =>
      cases inner : readString after with
      | error stop => simp [inner, Except.map] at found
      | ok read =>
          obtain ⟨pieces, values, printed⟩ := hypothesis _ _ inner
          simp only [inner, Except.map, Except.ok.injEq, Prod.mk.injEq] at found
          obtain ⟨rfl, rfl⟩ := found
          exact ⟨.escape e plain ((unescape_iff e plain).mp means) :: pieces, by simp [value, values],
            by simp [print, ← printed]⟩
  | case6 c rest' quote slash hypothesis =>
      cases inner : readString rest' with
      | error stop => simp [inner, Except.map] at found
      | ok read =>
          obtain ⟨pieces, values, printed⟩ := hypothesis _ _ inner
          simp only [inner, Except.map, Except.ok.injEq, Prod.mk.injEq] at found
          obtain ⟨rfl, rfl⟩ := found
          exact ⟨.plain c ⟨quote, slash⟩ :: pieces, by simp [value, values], by simp [print, ← printed]⟩

theorem not_close (piece : Piece) (text rest : List Char) : piece.print ++ text ≠ '"' :: rest := by
  cases piece with
  | plain c free => simp [print, free.1]
  | escape c value means => simp [print]

theorem print_unique (piece other : Piece) (text left : List Char)
    (same : piece.print ++ text = other.print ++ left) : piece = other ∧ text = left := by
  cases piece with
  | plain c free =>
      cases other with
      | plain d clear =>
          obtain ⟨rfl, following⟩ := List.cons.inj same
          exact ⟨rfl, following⟩
      | escape d value means => exact absurd (List.cons.inj same).1 free.2
  | escape c value means =>
      cases other with
      | plain d clear => exact absurd (List.cons.inj same).1.symm clear.2
      | escape d worth also =>
          obtain ⟨rfl, following⟩ := List.cons.inj (List.cons.inj same).2
          cases ((unescape_iff c value).mpr means).symm.trans ((unescape_iff c worth).mpr also)
          exact ⟨rfl, following⟩

theorem unique (pieces others : List Piece) (rest left : List Char)
    (same : pieces.flatMap print ++ '"' :: rest = others.flatMap print ++ '"' :: left) :
    pieces = others := by
  induction pieces generalizing others with
  | nil =>
      cases others with
      | nil => rfl
      | cons other others =>
          rw [List.flatMap_cons, List.append_assoc] at same
          exact absurd same.symm (other.not_close _ rest)
  | cons piece pieces hypothesis =>
      rw [List.flatMap_cons, List.append_assoc] at same
      cases others with
      | nil => exact absurd same (piece.not_close _ left)
      | cons other others =>
          rw [List.flatMap_cons, List.append_assoc] at same
          obtain ⟨rfl, following⟩ := piece.print_unique other _ _ same
          rw [hypothesis others following]

end Piece

inductive Word (kind : NameKind) where
  | reference (name : Name .environment)
  | name (name : Name kind) (some : name.text ≠ "")
  | number (number : NumberWord)
  | text (pieces : List Piece)

theorem name_some (least : 0 < kind.least) (name : Name kind) : name.text ≠ "" := by
  intro empty
  have valid := name.valid
  rw [empty] at valid
  simp only [NameKind.admits, NameKind.fits, String.toList_empty, List.length_nil, Bool.and_eq_true,
    decide_eq_true_eq] at valid
  omega

theorem environment_named (name : Name .environment) : name.text ≠ "" :=
  name_some (by decide) name

theorem no_variable (c : Char) (rest : List Char) (other : c ≠ '$') :
    takeVariable (c :: rest) = .absent := by
  simp [takeVariable, other]

theorem no_name (c : Char) (rest : List Char) (other : kind.initial c = false) :
    takeName kind (c :: rest) = .absent := by
  simp [takeName, other]

theorem variable_taken (text rest : List Char) (wanted : Name .environment)
    (found : takeVariable text = .token wanted rest) : text = '$' :: wanted.text.toList ++ rest := by
  cases text with
  | nil => simp [takeVariable] at found
  | cons c inner =>
      simp only [takeVariable] at found
      split at found
      · rename_i dollar
        split at found
        · simp at found
        · obtain ⟨_, printed⟩ := name_taken _ _ _ found
          rw [dollar, printed]
          rfl
      · simp at found

theorem number_taken (text rest : List Char) (value : Binary64)
    (found : takeNumber text = .token value rest) :
    ∃ number : NumberWord, number.value = value ∧ text = number.print ++ rest := by
  simp only [takeNumber] at found
  split at found
  · rename_i numeral left taken
    simp only [Taken.token.injEq] at found
    obtain ⟨rfl, rfl⟩ := found
    obtain ⟨number, same, printed⟩ := NumberWord.taken _ _ _ taken
    exact ⟨number, congrArg Numeral.value same, printed⟩
  · simp at found

theorem string_taken (text rest : List Char) (value : String)
    (found : takeString text = .token value rest) :
    ∃ pieces : List Piece, String.ofList (pieces.map Piece.value) = value ∧
      text = '"' :: (pieces.flatMap Piece.print ++ ['"']) ++ rest := by
  cases text with
  | nil => simp [takeString] at found
  | cons c inner =>
      simp only [takeString] at found
      split at found
      · rename_i quote
        split at found
        · rename_i characters after read
          simp only [Taken.token.injEq] at found
          obtain ⟨rfl, rfl⟩ := found
          obtain ⟨pieces, values, printed⟩ := Piece.taken _ _ _ read
          exact ⟨pieces, by rw [values], by simp [quote, printed]⟩
        · simp at found
      · simp at found

namespace Word

def print : Word kind → List Char
  | .reference wanted => '$' :: wanted.text.toList
  | .name called _ => called.text.toList
  | .number written => written.print
  | .text pieces => '"' :: (pieces.flatMap Piece.print ++ ['"'])

def lead : Word kind → Lead kind
  | .reference wanted => .reference wanted
  | .name called _ => .name called
  | .number written => .number written.value
  | .text pieces => .text (String.ofList (pieces.map Piece.value))

theorem number_head (number : NumberWord) :
    ∃ c more, number.print = c :: more ∧ (c.isDigit = true ∨ c = '+' ∨ c = '-') := by
  obtain ⟨c, more, shape, digit, _⟩ := number.whole.head
  simp only [NumberWord.print, shape]
  cases number.sign with
  | none => exact ⟨c, _, rfl, .inl digit⟩
  | plus => exact ⟨'+', _, rfl, .inr (.inl rfl)⟩
  | minus => exact ⟨'-', _, rfl, .inr (.inr rfl)⟩

theorem number_not_initial (separable : kind.Separable) (c : Char)
    (begins : c.isDigit = true ∨ c = '+' ∨ c = '-') : kind.initial c = false := by
  rw [← Bool.not_eq_true]
  intro initial
  rcases begins with digit | plus | minus
  · rw [separable.digit c initial] at digit
    exact Bool.false_ne_true digit
  · exact (separable.sign c initial).1 plus
  · exact (separable.sign c initial).2 minus

theorem number_not_mark (c : Char) (begins : c.isDigit = true ∨ c = '+' ∨ c = '-') :
    isMark c = false ∧ c ≠ '$' := by
  rcases begins with digit | rfl | rfl
  · refine ⟨digit_not_mark c digit, ?_⟩
    rintro rfl
    exact absurd digit (by decide)
  · decide
  · decide

theorem print_head (separable : kind.Separable) (word : Word kind) :
    ∃ c more, word.print = c :: more ∧ isBlank c = false ∧ c ≠ ')' := by
  have unmarked : ∀ c, isMark c = false → isBlank c = false ∧ c ≠ ')' := by
    intro c free
    simp only [isMark, Bool.or_eq_false_iff, beq_eq_false_iff_ne] at free
    exact ⟨free.1.1.1.1, free.1.2⟩
  cases word with
  | reference wanted => exact ⟨'$', _, rfl, by decide, by decide⟩
  | name called some =>
      obtain ⟨c, more, shape, initial, _⟩ := name_head called some
      exact ⟨c, more, shape, unmarked c (separable.first c initial)⟩
  | number number =>
      obtain ⟨c, more, shape, begins⟩ := number_head number
      exact ⟨c, more, shape, unmarked c (number_not_mark c begins).1⟩
  | text pieces => exact ⟨'"', _, rfl, by decide, by decide⟩

theorem take_lead (separable : kind.Separable) (word : Word kind) (rest : List Char)
    (breaks : Breaks rest) : takeLead kind (word.print ++ rest) = .token word.lead rest := by
  have stops : ∀ other : NameKind, other.Separable → Stops other.part rest :=
    fun _ apart => breaks_stops _ rest (mark_not_part apart) breaks
  cases word with
  | reference wanted =>
      have taken := take_name_written wanted rest (environment_named wanted)
        (stops _ environment_separable)
      simp [takeLead, takeVariable, print, lead, taken]
  | name called some =>
      obtain ⟨c, more, shape, initial, _⟩ := name_head called some
      have taken := take_name_written called rest some (stops kind separable)
      rw [shape, List.cons_append] at taken
      simp [takeLead, print, lead, shape, no_variable c _ (separable.dollar c initial), taken]
  | number number =>
      obtain ⟨c, more, shape, begins⟩ := number_head number
      have taken := number.take rest breaks
      rw [shape, List.cons_append] at taken
      simp [takeLead, print, lead, shape, no_variable c _ (number_not_mark c begins).2,
        no_name c _ (number_not_initial separable c begins), takeNumber, taken, NumberWord.value]
  | text pieces =>
      have other : kind.initial '"' = false := by
        rw [← Bool.not_eq_true]
        exact fun initial => separable.quote '"' initial rfl
      have read := Piece.read pieces rest
      have numberless : takeNumber ('"' :: (pieces.flatMap Piece.print ++ '"' :: rest)) = .absent := rfl
      simp [takeLead, print, lead, no_variable '"' _ (by decide), no_name '"' _ other, numberless,
        takeString, read]

theorem lead_taken (text rest : List Char) (lead : Lead kind)
    (found : takeLead kind text = .token lead rest) :
    ∃ word : Word kind, word.lead = lead ∧ text = word.print ++ rest := by
  simp only [takeLead] at found
  split at found
  · simp at found
  · rename_i wanted after taken
    simp only [Taken.token.injEq] at found
    obtain ⟨rfl, rfl⟩ := found
    exact ⟨.reference wanted, rfl, variable_taken _ _ _ taken⟩
  · split at found
    · simp at found
    · rename_i called after taken
      simp only [Taken.token.injEq] at found
      obtain ⟨rfl, rfl⟩ := found
      obtain ⟨some, printed⟩ := name_taken _ _ _ taken
      exact ⟨.name called some, rfl, printed⟩
    · split at found
      · simp at found
      · rename_i value after taken
        simp only [Taken.token.injEq] at found
        obtain ⟨rfl, rfl⟩ := found
        obtain ⟨number, same, printed⟩ := number_taken _ _ _ taken
        exact ⟨.number number, congrArg _ same, printed⟩
      · split at found
        · simp at found
        · rename_i value after taken
          simp only [Taken.token.injEq] at found
          obtain ⟨rfl, rfl⟩ := found
          obtain ⟨pieces, same, printed⟩ := string_taken _ _ _ taken
          exact ⟨.text pieces, congrArg _ same, printed⟩
        · simp at found

theorem unique (separable : kind.Separable) (word other : Word kind) (rest others : List Char)
    (breaks : Breaks rest) (ends : Breaks others)
    (same : word.print ++ rest = other.print ++ others) : word = other ∧ rest = others := by
  have taken := take_lead separable word rest breaks
  rw [same, take_lead separable other others ends, Taken.token.injEq] at taken
  obtain ⟨leads, rfl⟩ := taken
  refine ⟨?_, rfl⟩
  have printed := List.append_cancel_right same
  cases word with
  | reference wanted =>
      cases other <;> simp_all [lead]
  | name called some =>
      cases other <;> simp_all [lead]
  | number number =>
      cases other with
      | number also => rw [(number.unique also others others breaks ends same).1]
      | _ => simp [lead] at leads
  | text pieces =>
      cases other with
      | text also =>
          have inner : pieces.flatMap Piece.print ++ '"' :: [] = also.flatMap Piece.print ++ '"' :: [] :=
            (List.cons.inj printed).2
          rw [Piece.unique pieces also [] [] inner]
      | _ => simp [lead] at leads

end Word

theorem name_shown (separable : kind.Separable) (least : 0 < kind.least) (name : Name kind)
    (rest : List Char) : Stops isBlank (name.text.toList ++ rest) := by
  obtain ⟨c, more, shape, visible, _⟩ := Word.print_head separable (.name name (name_some least name))
  rw [Word.print] at shape
  rw [shape]
  exact stops_cons _ _ _ visible

end PluginNaming
