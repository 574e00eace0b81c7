import PluginNaming.Proofs.Name
import PluginNaming.Proofs.Number.Longest
import PluginNaming.Proofs.Scanner
import PluginNaming.Proofs.Selector.Enclosed
import PluginNaming.Proofs.Url

set_option autoImplicit false

namespace PluginNaming

open Text Number

namespace TokenForm

variable {kind : NameKind}

def name (kind : NameKind) : TokenForm (Name kind) := fun name token rest =>
  name.text.toList = token ∧ kind.Run (token ++ rest) token rest

def number : TokenForm Binary64 := fun value token rest =>
  ∃ number : NumberWord, number.value = value ∧ number.print = token ∧ number.Longest (token ++ rest)

def url [UrlLibrary] : TokenForm Url := fun url token rest =>
  url.text.toList = token ∧ token ≠ [] ∧ FrontWord (token ++ rest) token rest

def text : TokenForm String := fun value token _ =>
  ∃ pieces : List Piece, String.ofList (pieces.map Piece.value) = value ∧
    '"' :: (pieces.flatMap Piece.print ++ ['"']) = token

def reference : TokenForm (Name .environment) := fun wanted token rest =>
  ∃ letters, '$' :: letters = token ∧ name .environment wanted letters rest

def group : TokenForm String := fun value token _ =>
  value.toList = token ∧ Enclosed token

theorem name_follows : (name kind).Follows (takeName kind) where
  some _ _ _ written := written.2.some
  exact text called rest := by
    rw [take_name_iff]
    constructor
    · intro begun
      exact ⟨_, ⟨rfl, begun.whole ▸ begun⟩, begun.whole⟩
    · rintro ⟨_, ⟨rfl, begun⟩, rfl⟩
      exact begun

theorem number_follows : number.Follows takeNumber where
  some := by
    rintro _ _ rest ⟨number, _, rfl, _⟩ empty
    obtain ⟨c, more, shape, _⟩ := number.whole.head
    simp [NumberWord.print, shape] at empty
  exact text value rest := by
    rw [NumberWord.take_iff]
    constructor
    · rintro ⟨number, same, longest, rfl⟩
      exact ⟨_, ⟨number, same, rfl, longest⟩, rfl⟩
    · rintro ⟨_, ⟨number, same, rfl, longest⟩, rfl⟩
      exact ⟨number, same, longest, rfl⟩

theorem url_follows [UrlLibrary] : url.Follows takeUrl where
  some _ _ _ written := written.2.1
  exact text url rest := by
    rw [take_url_iff]
    constructor
    · rintro ⟨some, front⟩
      exact ⟨_, ⟨rfl, some, front.whole ▸ front⟩, front.whole⟩
    · rintro ⟨_, ⟨rfl, some, front⟩, rfl⟩
      exact ⟨some, front⟩

theorem text_follows : text.Follows takeString where
  some := by
    rintro _ _ _ ⟨pieces, _, rfl⟩
    exact List.cons_ne_nil _ _
  exact text value rest := by
    constructor
    · intro found
      obtain ⟨pieces, same, whole⟩ := string_taken text rest value found
      exact ⟨_, ⟨pieces, same, rfl⟩, whole⟩
    · rintro ⟨_, ⟨pieces, rfl, rfl⟩, rfl⟩
      have read := Piece.read pieces rest
      simp only [List.cons_append, List.append_assoc, List.nil_append, takeString, ↓reduceIte, read]

theorem reference_follows : reference.Follows takeVariable where
  some := by
    rintro _ _ _ ⟨letters, rfl, _⟩
    exact List.cons_ne_nil _ _
  exact text wanted rest := by
    constructor
    · intro found
      have whole := variable_taken text rest wanted found
      rw [whole, List.cons_append, takeVariable, if_pos rfl] at found
      split at found
      · cases found
      · obtain ⟨letters, written, same⟩ := (name_follows.exact _ _ _).mp found
        exact ⟨_, ⟨letters, rfl, written⟩, by rw [whole, List.cons_append, same, List.cons_append]⟩
    · rintro ⟨_, ⟨letters, rfl, written⟩, rfl⟩
      have taken := (name_follows.exact _ _ _).mpr ⟨letters, written, rfl⟩
      rw [List.cons_append, takeVariable, if_pos rfl, taken]

theorem group_follows : group.Follows takeGroup where
  some := by
    rintro _ _ _ ⟨_, inner, _, rfl⟩
    exact List.cons_ne_nil _ _
  exact text value rest := by
    constructor
    · intro found
      obtain ⟨enclosed, whole⟩ := group_taken text rest value found
      exact ⟨_, ⟨rfl, enclosed⟩, whole⟩
    · rintro ⟨_, ⟨rfl, enclosed⟩, rfl⟩
      rw [take_enclosed _ rest enclosed, String.ofList_toList]

end TokenForm

namespace Scanner

variable (scanner next : Scanner)

theorem present_iff {α : Type} (read : List Char → Taken α) :
    (∃ value next, scanner.take read = (.ok (some value), next)) ↔
      ∃ value rest, read scanner.rest = .token value rest := by
  constructor
  · rintro ⟨value, next, taken⟩
    obtain ⟨rest, found, _⟩ := (take_some_iff _ _ _ _).mp taken
    exact ⟨value, rest, found⟩
  · rintro ⟨value, rest, found⟩
    exact ⟨value, _, (take_some_iff _ _ _ _).mpr ⟨rest, found, rfl⟩⟩

theorem number_longest (value : Binary64) (taken : scanner.take takeNumber = (.ok (some value), next)) :
    ∃ number : NumberWord, next.since scanner.place = String.ofList number.print ∧
      number.Longest scanner.rest ∧ Binary64.read? number.print = some value := by
  obtain ⟨_, ⟨number, rfl, rfl, longest⟩, moved⟩ :=
    (consumes TokenForm.number_follows).present scanner next value taken
  exact ⟨number, moved.slice, moved.whole ▸ longest, number.read_print⟩

theorem group_shortest (value : String) (taken : scanner.take takeGroup = (.ok (some value), next)) :
    Enclosed value.toList ∧ ∀ other, Enclosed other → other <+: scanner.rest → value.toList = other := by
  obtain ⟨_, ⟨rfl, enclosed⟩, moved⟩ :=
    (consumes TokenForm.group_follows).present scanner next value taken
  refine ⟨enclosed, ?_⟩
  rintro other also ⟨behind, shape⟩
  exact (enclosed_unique _ _ _ _ enclosed also (moved.whole.symm.trans shape.symm)).1

theorem number_unfailing (fault : Fault) : (scanner.take takeNumber).1 ≠ .error fault := by
  rw [Ne, take_error_iff]
  rintro ⟨stop, failed, _⟩
  simp only [takeNumber] at failed
  split at failed <;> cases failed

theorem url_unfailing [UrlLibrary] (fault : Fault) : (scanner.take takeUrl).1 ≠ .error fault := by
  rw [Ne, take_error_iff]
  rintro ⟨stop, failed, _⟩
  exact PluginNaming.url_unfailing _ stop failed

theorem tokens_consumed [UrlLibrary] (kind : NameKind) :
    (Consumes (takeName kind) (.name kind) ∧ Consumes takeNumber .number ∧ Consumes takeUrl .url ∧
      Consumes takeString .text ∧ Consumes takeVariable .reference ∧ Consumes takeGroup .group) ∧
      (∀ (scanner : Scanner) (fault : Fault),
        (scanner.take takeNumber).1 ≠ .error fault ∧ (scanner.take takeUrl).1 ≠ .error fault) ∧
      (∀ scanner : Scanner, (∃ value next, scanner.take takeNumber = (.ok (some value), next)) ↔
        ∃ (sign : Sign) (c : Char) (more : List Char),
          scanner.rest = sign.print ++ c :: more ∧ c.isDigit = true) ∧
      (∀ (scanner next : Scanner) (value : Binary64),
        scanner.take takeNumber = (.ok (some value), next) → ∃ number : NumberWord,
          next.since scanner.place = String.ofList number.print ∧ number.Longest scanner.rest ∧
            Binary64.read? number.print = some value) ∧
      (∀ (scanner : Scanner) (word rest : List Char), FrontWord scanner.rest word rest →
        ((∃ url next, scanner.take takeUrl = (.ok (some url), next)) ↔
          word ≠ [] ∧ ∃ url, Url.parse (String.ofList word) = .ok url)) ∧
      ∀ (scanner next : Scanner) (value : String), scanner.take takeGroup = (.ok (some value), next) →
        Enclosed value.toList ∧
          ∀ other, Enclosed other → other <+: scanner.rest → value.toList = other := by
  refine ⟨⟨consumes TokenForm.name_follows, consumes TokenForm.number_follows,
    consumes TokenForm.url_follows, consumes TokenForm.text_follows,
    consumes TokenForm.reference_follows, consumes TokenForm.group_follows⟩, ?_, ?_, number_longest, ?_,
    group_shortest⟩
  · exact fun scanner fault => ⟨number_unfailing scanner fault, url_unfailing scanner fault⟩
  · intro scanner
    rw [present_iff, NumberWord.present_iff]
  · intro scanner word rest front
    rw [present_iff, url_present_iff _ _ _ front]

end Scanner

end PluginNaming
