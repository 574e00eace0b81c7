import PluginNaming.Bundled.Url
import PluginNaming.Proofs.Url

set_option autoImplicit false

namespace PluginNaming.Bundled

theorem trim_outer_cons (c : Char) (rest : List Char) (inside : isOuter c = false) :
    ∃ more, trimOuter (c :: rest) = c :: more := by
  have begun : (c :: rest).dropWhile isOuter = c :: rest :=
    List.dropWhile_cons_of_neg (by simp [inside])
  refine ⟨(rest.reverse.dropWhile isOuter).reverse, ?_⟩
  rw [trimOuter, begun, List.reverse_cons, List.dropWhile_append]
  split
  · rename_i empty
    rw [List.isEmpty_iff.mp empty, List.dropWhile_cons_of_neg (by simp [inside])]
    rfl
  · simp

theorem inner_break_outer (c : Char) (inside : isOuter c = false) : isInnerBreak c = false := by
  rw [← Bool.not_eq_true]
  intro breaks
  simp only [isInnerBreak, Bool.or_eq_true, beq_iff_eq] at breaks
  rcases breaks with (rfl | rfl) | rfl
  all_goals exact absurd inside (by decide)

theorem meaningful_cons (c : Char) (rest : List Char) (inside : isOuter c = false) :
    ∃ more, meaningful (c :: rest) = c :: more := by
  obtain ⟨more, trimmed⟩ := trim_outer_cons c rest inside
  refine ⟨more.filter fun d => !isInnerBreak d, ?_⟩
  rw [meaningful, trimmed, List.filter_cons_of_pos (by simp [inner_break_outer c inside])]

-- Only spaces and control characters may stand before the letter that a scheme begins with.
theorem read_unlettered (c : Char) (rest : List Char) (inside : isOuter c = false)
    (unlettered : c.isAlpha = false) : Address.read (c :: rest) = .error .relative := by
  obtain ⟨more, meant⟩ := meaningful_cons c rest inside
  rw [Address.read, meant, takeScheme?, if_neg (by simp [unlettered])]

theorem urls_never_begin (mark : Char) (inside : isOuter mark = false)
    (unlettered : mark.isAlpha = false) : @UrlLibrary.NeverBegins urls mark :=
  letI := urls
  { apart := fun url begun => by
      obtain ⟨rest, shape⟩ := List.head?_eq_some_iff.mp begun
      have accepted := url.accepted
      simp only [Url.examine, UrlLibrary.parse, shape, read_unlettered mark rest inside unlettered] at accepted
      cases accepted }

instance : @UrlLibrary.NeverBegins urls ',' :=
  urls_never_begin _ (by decide) (by decide)

instance : @UrlLibrary.NeverBegins urls '(' :=
  urls_never_begin _ (by decide) (by decide)

end PluginNaming.Bundled
