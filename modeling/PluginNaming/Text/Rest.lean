import PluginNaming.Text.Blank

set_option autoImplicit false

namespace PluginNaming.Text

variable {α : Type}

abbrev Rest (text : List α) := { rest : List α // rest.length < text.length }

def Rest.trans {text middle : List α} (rest : Rest middle)
    (bound : middle.length ≤ text.length) : Rest text :=
  ⟨rest.1, Nat.lt_of_lt_of_le rest.2 bound⟩

def Rest.andThen {text : List α} (rest : Rest text) (next : Rest rest.1) : Rest text :=
  next.trans (Nat.le_of_lt rest.2)

def Rest.drop (c : α) (rest : List α) (n : Nat) : Rest (c :: rest) :=
  ⟨rest.drop n, by simp only [List.length_drop, List.length_cons]; omega⟩

def Rest.tail (c : α) (rest : List α) : Rest (c :: rest) :=
  ⟨rest, by simp⟩

def Rest.past (c : α) (test : α → Bool) (rest : List α) : Rest (c :: rest) :=
  ⟨rest.dropWhile test, Nat.lt_succ_of_le (List.dropWhile_suffix test).length_le⟩

def Rest.cons {text : List α} (c : α) (rest : Rest text) : Rest (c :: text) :=
  rest.trans (by simp)

def Rest.behind {text skipped rest : List α} {c : α} (bound : skipped.length ≤ text.length)
    (found : skipped = c :: rest) : Rest text :=
  ⟨rest, by rw [found, List.length_cons] at bound; omega⟩

def Rest.afterBlanks {text rest : List Char} {c : Char} (found : Text.skipBlanks text = c :: rest) :
    Rest text :=
  .behind (skip_blanks_length text) found

abbrev Tail (text : List α) := { rest : List α // rest.length ≤ text.length }

def Tail.past (test : α → Bool) (text : List α) : Tail text :=
  ⟨text.dropWhile test, (List.dropWhile_suffix test).length_le⟩

def Tail.drop (n : Nat) (text : List α) : Tail text :=
  ⟨text.drop n, by simp⟩

def Tail.whole (text : List α) : Tail text := ⟨text, Nat.le_refl _⟩

def Rest.toTail {text : List α} (rest : Rest text) : Tail text := ⟨rest.1, Nat.le_of_lt rest.2⟩

def Tail.andThen {text : List α} (tail : Tail text) (next : Tail tail.1) : Tail text :=
  ⟨next.1, Nat.le_trans next.2 tail.2⟩

def Tail.cons {text : List α} (c : α) (tail : Tail text) : Rest (c :: text) :=
  ⟨tail.1, Nat.lt_succ_of_le tail.2⟩

def Tail.rest {text : List α} (tail : Tail text) (next : Rest tail.1) : Rest text :=
  next.trans tail.2

def Rest.followedBy {text : List α} (rest : Rest text) (tail : Tail rest.1) : Rest text :=
  ⟨tail.1, Nat.lt_of_le_of_lt tail.2 rest.2⟩

def Rest.skipBlanks {text : List Char} (rest : Rest text) : Rest text :=
  ⟨Text.skipBlanks rest.1, Nat.lt_of_le_of_lt (skip_blanks_length rest.1) rest.2⟩

end PluginNaming.Text
