import PluginNaming.Proofs.Selector.Run

set_option autoImplicit false

namespace PluginNaming

open Text

structure FrontWord (text word rest : List Char) : Prop where
  whole : text = word ++ rest
  visible : ∀ c ∈ word, isBlank c = false
  ends : Stops (fun c => !isBlank c) rest

theorem front_word (text : List Char) : FrontWord text (takeWord text) (dropWord text) where
  whole := List.takeWhile_append_dropWhile.symm
  visible c member := by
    have visible := List.all_eq_true.mp (take_all (fun c => !isBlank c) text) c member
    simpa using visible
  ends := stops_drop _ text

theorem front_word_unique (text word rest : List Char) (front : FrontWord text word rest) :
    takeWord text = word ∧ dropWord text = rest := by
  obtain ⟨rfl, visible, ends⟩ := front
  have all : word.all (fun c => !isBlank c) = true := by
    rw [List.all_eq_true]
    intro c member
    simp [visible c member]
  exact ⟨take_run _ _ _ all ends, drop_run _ _ _ all ends⟩

theorem word_stops_iff (rest : List Char) :
    Stops (fun c => !isBlank c) rest ↔ rest = [] ∨ startsBlank rest = true := by
  cases rest with
  | nil => simp [stops_nil]
  | cons c more => simp [Stops, startsBlank]

section Reading

variable [UrlLibrary]

-- What may be assumed of the library: no url that it takes begins with this character.
class UrlLibrary.NeverBegins (mark : Char) : Prop where
  apart : ∀ url : Url, url.text.toList.head? ≠ some mark

namespace Url

theorem parse_text (url : Url) : parse url.text = .ok url := by
  unfold parse
  split
  · rfl
  · rename_i defect found
    have accepted := url.accepted
    rw [found] at accepted
    cases accepted

theorem text_of_parse (text : String) (url : Url) (found : parse text = .ok url) : url.text = text := by
  unfold parse at found
  split at found
  · cases found
    rfl
  · cases found

theorem require_text (url : Url) : require url.text = .ok url := by
  unfold require
  rw [url.parse_text]
  rfl

structure Unbroken (url : Url) : Prop where
  some : url.text.toList ≠ []
  visible : ∀ c ∈ url.text.toList, isBlank c = false

instance (url : Url) : Decidable url.Unbroken :=
  decidable_of_iff (url.text.toList ≠ [] ∧ url.text.toList.all (!isBlank ·) = true)
    ⟨fun both => ⟨both.1, by simpa using both.2⟩, fun unbroken =>
      ⟨unbroken.some, by simpa using unbroken.visible⟩⟩

theorem head (url : Url) (unbroken : url.Unbroken) :
    ∃ c more, url.text.toList = c :: more ∧ isBlank c = false := by
  obtain ⟨c, more, shape⟩ := List.exists_cons_of_ne_nil unbroken.some
  exact ⟨c, more, shape, unbroken.visible c (shape ▸ List.mem_cons_self)⟩

theorem head_apart (mark : Char) [UrlLibrary.NeverBegins mark] (url : Url) (c : Char) (more : List Char)
    (shape : url.text.toList = c :: more) : c ≠ mark := by
  have apart : url.text.toList.head? ≠ some mark := UrlLibrary.NeverBegins.apart url
  rw [shape] at apart
  rintro rfl
  exact apart rfl

end Url

theorem take_url_iff (text rest : List Char) (url : Url) :
    takeUrl text = .token url rest ↔ url.text.toList ≠ [] ∧ FrontWord text url.text.toList rest := by
  constructor
  · intro found
    simp only [takeUrl] at found
    split at found
    · cases found
    · rename_i some
      split at found
      · rename_i parsed
        cases found
        rw [Url.text_of_parse _ _ parsed, String.toList_ofList]
        exact ⟨some, front_word text⟩
      · cases found
  · rintro ⟨some, front⟩
    obtain ⟨word, left⟩ := front_word_unique _ _ _ front
    rw [takeUrl, word, left, if_neg some, String.ofList_toList, url.parse_text]

theorem take_url_written (url : Url) (unbroken : url.Unbroken) (rest : List Char)
    (ends : rest = [] ∨ startsBlank rest = true) :
    takeUrl (url.text.toList ++ rest) = .token url rest :=
  (take_url_iff _ _ _).mpr ⟨unbroken.some, rfl, unbroken.visible, (word_stops_iff rest).mpr ends⟩

theorem url_taken (text rest : List Char) (url : Url) (found : takeUrl text = .token url rest) :
    url.Unbroken := by
  obtain ⟨some, front⟩ := (take_url_iff _ _ _).mp found
  exact ⟨some, front.visible⟩

theorem url_spelled (text rest : List Char) (url : Url) (found : takeUrl text = .token url rest) :
    text = url.text.toList ++ rest ∧ (rest = [] ∨ startsBlank rest = true) := by
  obtain ⟨_, front⟩ := (take_url_iff _ _ _).mp found
  exact ⟨front.whole, (word_stops_iff rest).mp front.ends⟩

theorem url_present_iff (text word rest : List Char) (front : FrontWord text word rest) :
    (∃ url left, takeUrl text = .token url left) ↔
      word ≠ [] ∧ ∃ url, Url.parse (String.ofList word) = .ok url := by
  obtain ⟨same, _⟩ := front_word_unique _ _ _ front
  rw [takeUrl, same]
  by_cases some : word = []
  · simp [some]
  · rw [if_neg some]
    cases Url.parse (String.ofList word) with
    | ok url => simp [some]
    | error defect => simp

theorem url_unfailing (text : List Char) (stop : Stop) : takeUrl text ≠ .failed stop := by
  intro failed
  simp only [takeUrl] at failed
  split at failed
  · cases failed
  · split at failed <;> cases failed

end Reading

namespace UrlLibrary

@[reducible]
def known (urls : List (String × String)) : UrlLibrary where
  parse text :=
    match urls.lookup text with
    | some normalForm => .ok ⟨false, true, normalForm⟩
    | none => .error "relative URL without a base"

theorem known_apart (urls : List (String × String)) (mark : Char)
    (apart : ∀ entry ∈ urls, entry.1.toList.head? ≠ some mark) : @NeverBegins (known urls) mark :=
  letI := known urls
  { apart := fun url => by
      have accepted := url.accepted
      unfold Url.examine at accepted
      cases found : urls.lookup url.text with
      | none =>
          simp only [parse, found] at accepted
          cases accepted
      | some normalForm =>
          obtain ⟨before, after, shape, _⟩ := List.lookup_eq_some_iff.mp found
          exact apart (url.text, normalForm) (by simp [shape]) }

@[reducible]
def sample : UrlLibrary :=
  known [("a://a", "a://a"), ("a://b", "a://b"), ("a://c", "a://c"), ("a://i", "a://i"), ("a://o", "a://o"),
    ("a://p", "a://p"), ("a://q", "a://q"), ("a://w", "a://w"), ("a://y", "a://y"), ("a://z", "a://z"),
    ("a://p/q,r", "a://p/q,r"), ("a://p?)),q", "a://p?)),q"), ("b://c?d,e", "b://c?d,e"), ("c://q", "c://q"),
    ("d://e,f", "d://e,f"), ("https://example.com/a", "https://example.com/a"),
    ("https://example.com/a b", "https://example.com/a%20b"),
    ("https://example.com/core", "https://example.com/core"),
    ("https://example.com/plugins/a", "https://example.com/plugins/a")]

instance : @NeverBegins sample ',' :=
  known_apart _ _ (by decide)

instance : @NeverBegins sample '(' :=
  known_apart _ _ (by decide)

end UrlLibrary

end PluginNaming
