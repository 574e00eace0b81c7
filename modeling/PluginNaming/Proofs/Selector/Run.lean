import PluginNaming.Token

set_option autoImplicit false

namespace PluginNaming

open Text Number

def Stops (test : Char → Bool) (rest : List Char) : Prop :=
  ∀ c ∈ rest.head?, test c = false

theorem stops_nil (test : Char → Bool) : Stops test [] := by
  intro c found
  cases found

theorem stops_cons (test : Char → Bool) (c : Char) (rest : List Char) (fails : test c = false) :
    Stops test (c :: rest) := by
  intro first found
  cases found
  exact fails

theorem stops_append (test : Char → Bool) (text rest : List Char) (first : Stops test text)
    (second : Stops test rest) : Stops test (text ++ rest) := by
  cases text with
  | nil => exact second
  | cons c more => exact stops_cons test c _ (first c rfl)

theorem take_run (test : Char → Bool) (run rest : List Char) (all : run.all test = true)
    (stops : Stops test rest) : (run ++ rest).takeWhile test = run := by
  rw [List.takeWhile_append_of_pos (List.all_eq_true.mp all)]
  cases rest with
  | nil => simp
  | cons c more => simp [stops c rfl]

theorem drop_run (test : Char → Bool) (run rest : List Char) (all : run.all test = true)
    (stops : Stops test rest) : (run ++ rest).dropWhile test = rest := by
  rw [List.dropWhile_append_of_pos (List.all_eq_true.mp all)]
  cases rest with
  | nil => rfl
  | cons c more => simp [stops c rfl]

theorem run_unique (test : Char → Bool) (run rest other others : List Char)
    (all : run.all test = true) (stops : Stops test rest) (also : other.all test = true)
    (ends : Stops test others) (same : run ++ rest = other ++ others) :
    run = other ∧ rest = others := by
  constructor
  · rw [← take_run test run rest all stops, same, take_run test other others also ends]
  · rw [← drop_run test run rest all stops, same, drop_run test other others also ends]

theorem take_all (test : Char → Bool) (text : List Char) :
    (text.takeWhile test).all test = true := by
  simp [List.all_takeWhile]

theorem stops_drop (test : Char → Bool) (text : List Char) : Stops test (text.dropWhile test) := by
  intro c first
  have ends := List.head?_dropWhile_not test text
  rw [Option.mem_def.mp first] at ends
  simpa using ends

theorem stops_skip (text : List Char) : Stops isBlank (skipBlanks text) :=
  stops_drop isBlank text

@[ext]
structure Gap where
  blanks : List Char
  blank : blanks.all isBlank = true

namespace Gap

def none : Gap := ⟨[], rfl⟩

def append (first second : Gap) : Gap :=
  ⟨first.blanks ++ second.blanks, by rw [List.all_append, first.blank, second.blank]; rfl⟩

def before (text : List Char) : Gap := ⟨text.takeWhile isBlank, take_all isBlank text⟩

theorem before_append (text : List Char) : (before text).blanks ++ skipBlanks text = text :=
  List.takeWhile_append_dropWhile

theorem skip (gap : Gap) (rest : List Char) (stops : Stops isBlank rest) :
    skipBlanks (gap.blanks ++ rest) = rest :=
  drop_run isBlank gap.blanks rest gap.blank stops

theorem skip_all (gap : Gap) : skipBlanks gap.blanks = [] := by
  have skipped := gap.skip [] (stops_nil isBlank)
  rwa [List.append_nil] at skipped

theorem starts (gap : Gap) (apart : gap.blanks ≠ []) (rest : List Char) :
    startsBlank (gap.blanks ++ rest) = true := by
  cases shape : gap.blanks with
  | nil => exact absurd shape apart
  | cons c more =>
      have blank := gap.blank
      rw [shape, List.all_cons, Bool.and_eq_true] at blank
      exact blank.1

theorem before_apart (text : List Char) (starts : startsBlank text = true) :
    (before text).blanks ≠ [] := by
  cases text with
  | nil => cases starts
  | cons c more =>
      have blank : isBlank c = true := starts
      simp [before, blank]

theorem unique (gap other : Gap) (rest others : List Char) (stops : Stops isBlank rest)
    (ends : Stops isBlank others) (same : gap.blanks ++ rest = other.blanks ++ others) :
    gap = other ∧ rest = others := by
  obtain ⟨equal, left⟩ := run_unique isBlank _ _ _ _ gap.blank stops other.blank ends same
  exact ⟨Gap.ext equal, left⟩

end Gap

theorem all_blank (text : List Char) (left : skipBlanks text = []) : text.all isBlank = true := by
  have split := Gap.before_append text
  rw [left, List.append_nil] at split
  rw [← split]
  exact (Gap.before text).blank

end PluginNaming
