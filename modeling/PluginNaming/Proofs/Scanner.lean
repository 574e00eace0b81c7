import PluginNaming.Proofs.Selector.Run
import PluginNaming.Scanner

set_option autoImplicit false

namespace PluginNaming

variable {α : Type}

abbrev TokenForm (α : Type) := α → List Char → List Char → Prop

structure TokenForm.Follows (form : TokenForm α) (read : List Char → Taken α) : Prop where
  some : ∀ value token rest, form value token rest → token ≠ []
  exact : ∀ text value rest, read text = .token value rest ↔
    ∃ token, form value token rest ∧ text = token ++ rest

namespace Scanner

structure Moved (scanner next : Scanner) (token : List Char) : Prop where
  text : next.text = scanner.text
  advanced : scanner.place < next.place
  place : next.place = scanner.place + token.length
  whole : scanner.rest = token ++ next.rest
  slice : next.since scanner.place = String.ofList token

structure Consumes (read : List Char → Taken α) (form : TokenForm α) : Prop where
  absent : ∀ scanner next : Scanner, scanner.take read = (.ok none, next) → next = scanner
  present : ∀ (scanner next : Scanner) (value : α), scanner.take read = (.ok (some value), next) →
    ∃ token, form value token next.rest ∧ Moved scanner next token
  found : ∀ (scanner : Scanner) (value : α) (token rest : List Char), form value token rest →
    scanner.rest = token ++ rest →
      ∃ next, scanner.take read = (.ok (some value), next) ∧ next.rest = rest

section Calls

variable (read : List Char → Taken α) (scanner next : Scanner)

theorem take_some_iff (value : α) : scanner.take read = (.ok (some value), next) ↔
    ∃ rest, read scanner.rest = .token value rest ∧ next = scanner.moveTo rest := by
  unfold take
  cases read scanner.rest with
  | token other rest =>
      constructor
      · intro found
        cases found
        exact ⟨rest, rfl, rfl⟩
      · rintro ⟨_, taken, rfl⟩
        cases taken
        rfl
  | absent => simp
  | failed stop => simp

theorem take_none_iff :
    scanner.take read = (.ok none, next) ↔ read scanner.rest = .absent ∧ next = scanner := by
  unfold take
  cases read scanner.rest with
  | token other rest => simp
  | absent => simp [eq_comm]
  | failed stop => simp

theorem take_error_iff (fault : Fault) : (scanner.take read).1 = .error fault ↔
    ∃ stop, read scanner.rest = .failed stop ∧ fault = stop.fault scanner.text := by
  unfold take
  cases read scanner.rest with
  | token other rest => simp
  | absent => simp
  | failed stop => simp [eq_comm]

end Calls

theorem moved (scanner : Scanner) (token rest : List Char) (some : token ≠ [])
    (shape : scanner.rest = token ++ rest) :
    Moved scanner (scanner.moveTo rest) token ∧ (scanner.moveTo rest).rest = rest := by
  have left : scanner.text.length - scanner.place = token.length + rest.length := by
    rw [← List.length_append, ← shape, Scanner.rest, List.length_drop, String.length_toList]
  have wide := List.length_pos_iff.mpr some
  have reached : (scanner.moveTo rest).place = scanner.place + token.length := by
    unfold moveTo placeOf
    dsimp only
    omega
  have behind : (scanner.moveTo rest).rest = rest := by
    have dropped := congrArg (List.drop token.length) shape
    rw [List.drop_left, Scanner.rest, List.drop_drop, ← reached] at dropped
    exact dropped
  refine ⟨⟨rfl, by omega, reached, by rw [behind, shape], ?_⟩, behind⟩
  have text : (scanner.moveTo rest).text = scanner.text := rfl
  rw [since, text, reached, List.drop_take, Nat.add_sub_cancel_left, ← Scanner.rest, shape, List.take_left]

variable {read : List Char → Taken α} {form : TokenForm α}

theorem consumes (follows : form.Follows read) : Consumes read form where
  absent scanner next found := ((take_none_iff read scanner next).mp found).2
  present scanner next value found := by
    obtain ⟨rest, taken, rfl⟩ := (take_some_iff read scanner next value).mp found
    obtain ⟨token, written, shape⟩ := (follows.exact _ _ _).mp taken
    obtain ⟨moves, behind⟩ := scanner.moved token rest (follows.some _ _ _ written) shape
    exact ⟨token, behind.symm ▸ written, moves⟩
  found scanner value token rest written shape := by
    have taken := (follows.exact _ _ _).mpr ⟨token, written, shape⟩
    have behind := (scanner.moved token rest (follows.some _ _ _ written) shape).2
    exact ⟨_, (take_some_iff read scanner _ value).mpr ⟨rest, taken, rfl⟩, behind⟩

end Scanner

end PluginNaming
