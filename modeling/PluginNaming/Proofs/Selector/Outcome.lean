import PluginNaming.Proofs.Selector.Interpretation

set_option autoImplicit false

namespace PluginNaming

open Data

variable {kind : NameKind} {σ τ : Type}

abbrev Service (kind : NameKind) (τ : Type) := Name kind → List (Value τ) → τ → Prop

inductive Word.Gives (lookup : Lookup) (serves : Service kind τ) : Word kind → Value τ → Prop where
  | reference (wanted : Name .environment) (value : Json) (set : lookup wanted = some value) :
      Word.Gives lookup serves (.reference wanted) (.environment value)
  | name (called : Name kind) (some : called.text ≠ "") (plugin : τ) (served : serves called [] plugin) :
      Word.Gives lookup serves (.name called some) (.provided plugin)
  | number (written : NumberWord) : Word.Gives lookup serves (.number written) (.number written.value)
  | text (pieces : List Piece) :
      Word.Gives lookup serves (.text pieces) (.text (String.ofList (pieces.map Piece.value)))

mutual

inductive Term.Gives (lookup : Lookup) (serves : Service kind τ) : Term kind → Value τ → Prop where
  | word (leaf : Word kind) (value : Value τ) (given : leaf.Gives lookup serves value) :
      Term.Gives lookup serves (.word leaf) value
  | call (name : Name kind) (some : name.text ≠ "") (gap : Gap) (group : Group kind)
      (values : List (Value τ)) (plugin : τ) (given : Group.Gives lookup serves group values)
      (served : serves name values plugin) :
      Term.Gives lookup serves (.call name some gap group) (.provided plugin)

inductive Group.Gives (lookup : Lookup) (serves : Service kind τ) :
    Group kind → List (Value τ) → Prop where
  | empty (gap : Gap) : Group.Gives lookup serves (.empty gap) []
  | filled (row : Row kind) (values : List (Value τ)) (given : Row.Gives lookup serves row values) :
      Group.Gives lookup serves (.filled row) values

inductive Row.Gives (lookup : Lookup) (serves : Service kind τ) : Row kind → List (Value τ) → Prop where
  | last (before : Gap) (term : Term kind) (after : Gap) (value : Value τ)
      (given : Term.Gives lookup serves term value) :
      Row.Gives lookup serves (.last before term after) [value]
  | more (before : Gap) (term : Term kind) (after : Gap) (others : Row kind) (value : Value τ)
      (values : List (Value τ)) (given : Term.Gives lookup serves term value)
      (following : Row.Gives lookup serves others values) :
      Row.Gives lookup serves (.more before term after others) (value :: values)

end

inductive Phrase.Gives (lookup : Lookup) (serves : Service kind τ) :
    Phrase kind → List (Value τ) → Prop where
  | blank (gap : Gap) : Phrase.Gives lookup serves (.blank gap) []
  | listed (before : Gap) (group : Group kind) (after : Gap) (values : List (Value τ))
      (given : group.Gives lookup serves values) :
      Phrase.Gives lookup serves (.listed before group after) values

def Word.references : Word kind → List (Name .environment)
  | .reference wanted => [wanted]
  | _ => []

mutual

def Term.references : Term kind → List (Name .environment)
  | .word leaf => leaf.references
  | .call _ _ _ group => group.references

def Group.references : Group kind → List (Name .environment)
  | .empty _ => []
  | .filled row => row.references

def Row.references : Row kind → List (Name .environment)
  | .last _ term _ => term.references
  | .more _ term _ others => term.references ++ others.references

end

def Phrase.references : Phrase kind → List (Name .environment)
  | .blank _ => []
  | .listed _ group _ => group.references

section Sound

variable (lookup : Lookup) (call : Call kind σ τ) (serves : Service kind τ)

def Obeys : Prop :=
  ∀ name values state plugin, ((call name values).perform state).1 = .ok plugin →
    serves name values plugin

theorem Word.gives_of_ok (obeys : Obeys call serves) (word : Word kind) (state : σ) (value : Value τ)
    (found : ((word.interpret lookup call).perform state).1 = .ok value) :
    word.Gives lookup serves value := by
  cases word with
  | reference wanted =>
      simp only [interpret] at found
      split at found
      · rename_i known set
        cases found
        exact .reference wanted known set
      · cases found
  | name called some =>
      obtain ⟨plugin, made, last⟩ := Action.ok_of_bind _ _ _ _ found
      cases last
      exact .name called some plugin (obeys called [] state plugin made)
  | number written =>
      cases found
      exact .number written
  | text pieces =>
      cases found
      exact .text pieces

mutual

theorem Term.gives_of_ok (obeys : Obeys call serves) (term : Term kind) (state : σ) (value : Value τ)
    (found : ((term.interpret lookup call).perform state).1 = .ok value) :
    term.Gives lookup serves value := by
  cases term with
  | word leaf => exact .word leaf value (leaf.gives_of_ok lookup call serves obeys state value found)
  | call name some gap group =>
      obtain ⟨values, inner, next⟩ := Action.ok_of_bind _ _ _ _ found
      obtain ⟨plugin, made, last⟩ := Action.ok_of_bind _ _ _ _ next
      cases last
      exact .call name some gap group values plugin (group.gives_of_ok obeys state values inner)
        (obeys name values _ plugin made)

theorem Group.gives_of_ok (obeys : Obeys call serves) (group : Group kind) (state : σ)
    (values : List (Value τ))
    (found : ((group.interpret lookup call).perform state).1 = .ok values) :
    group.Gives lookup serves values := by
  cases group with
  | empty gap =>
      cases found
      exact .empty gap
  | filled row => exact .filled row values (row.gives_of_ok obeys state values found)

theorem Row.gives_of_ok (obeys : Obeys call serves) (row : Row kind) (state : σ)
    (values : List (Value τ))
    (found : ((row.interpret lookup call).perform state).1 = .ok values) :
    row.Gives lookup serves values := by
  cases row with
  | last before term after =>
      obtain ⟨value, first, last⟩ := Action.ok_of_bind _ _ _ _ found
      cases last
      exact .last before term after value (term.gives_of_ok obeys state value first)
  | more before term after others =>
      obtain ⟨value, first, next⟩ := Action.ok_of_bind _ _ _ _ found
      obtain ⟨following, second, last⟩ := Action.ok_of_bind _ _ _ _ next
      cases last
      exact .more before term after others value following (term.gives_of_ok obeys state value first)
        (others.gives_of_ok obeys _ following second)

end

theorem Phrase.gives_of_ok (obeys : Obeys call serves) (phrase : Phrase kind) (state : σ)
    (values : List (Value τ))
    (found : ((phrase.interpret lookup call).perform state).1 = .ok values) :
    phrase.Gives lookup serves values := by
  cases phrase with
  | blank gap =>
      cases found
      exact .blank gap
  | listed before group after =>
      exact .listed before group after values
        (group.gives_of_ok lookup call serves obeys state values found)

theorem Selector.evaluate_gives (separable : kind.Separable) (obeys : Obeys call serves)
    (selector : Selector kind) (state : σ) (values : List (Value τ))
    (found : ((selector.evaluate lookup call).perform state).1 = .ok values) :
    ∃ phrase : Phrase kind, phrase.print = selector.text.toList ∧
      phrase.Gives lookup serves values := by
  have ran := selector.evaluate_ok lookup call state values found
  obtain ⟨phrase, written⟩ := (Phrase.whole_iff separable selector.text.toList).mp
    (Arguments.whole_of_ok _ _ _ _ state values ran)
  rw [arguments, ← written, phrase.of_text separable, phrase.run_arguments] at ran
  exact ⟨phrase, written, phrase.gives_of_ok lookup call serves obeys state values ran⟩

end Sound

section Complete

variable (lookup : Lookup) (call : Call kind σ τ) (serves : Service kind τ)

def Answers (name : Name kind) : Prop :=
  ∀ values state, ∃ plugin after, (call name values).perform state = (.ok plugin, after) ∧
    serves name values plugin

theorem Word.answered (word : Word kind) (answers : ∀ name ∈ word.names, Answers call serves name)
    (known : ∀ wanted ∈ word.references, ∃ value, lookup wanted = some value) (state : σ) :
    ∃ value after, (word.interpret lookup call).perform state = (.ok value, after) ∧
      word.Gives lookup serves value := by
  cases word with
  | reference wanted =>
      obtain ⟨value, set⟩ := known wanted List.mem_cons_self
      refine ⟨_, state, ?_, .reference wanted value set⟩
      simp only [interpret, set]
      rfl
  | name called some =>
      obtain ⟨plugin, after, made, served⟩ := answers called List.mem_cons_self [] state
      exact ⟨_, after, Action.bind_ok _ _ _ _ _ made, .name called some plugin served⟩
  | number written => exact ⟨_, state, rfl, .number written⟩
  | text pieces => exact ⟨_, state, rfl, .text pieces⟩

mutual

theorem Term.answered (term : Term kind) (answers : ∀ name ∈ term.names, Answers call serves name)
    (known : ∀ wanted ∈ term.references, ∃ value, lookup wanted = some value) (state : σ) :
    ∃ value after, (term.interpret lookup call).perform state = (.ok value, after) ∧
      term.Gives lookup serves value := by
  cases term with
  | word leaf =>
      obtain ⟨value, after, ran, given⟩ := leaf.answered lookup call serves answers known state
      exact ⟨value, after, ran, .word leaf value given⟩
  | call name some gap group =>
      obtain ⟨values, between, inner, given⟩ := group.answered
        (fun nested member => answers nested (List.mem_append_left _ member)) known state
      obtain ⟨plugin, after, made, served⟩ :=
        answers name (List.mem_append_right _ List.mem_cons_self) values between
      refine ⟨_, after, ?_, .call name some gap group values plugin given served⟩
      rw [Term.interpret, Action.bind_ok _ _ _ _ _ inner]
      exact Action.bind_ok _ _ _ _ _ made

theorem Group.answered (group : Group kind) (answers : ∀ name ∈ group.names, Answers call serves name)
    (known : ∀ wanted ∈ group.references, ∃ value, lookup wanted = some value) (state : σ) :
    ∃ values after, (group.interpret lookup call).perform state = (.ok values, after) ∧
      group.Gives lookup serves values := by
  cases group with
  | empty gap => exact ⟨[], state, rfl, .empty gap⟩
  | filled row =>
      obtain ⟨values, after, ran, given⟩ := row.answered answers known state
      exact ⟨values, after, ran, .filled row values given⟩

theorem Row.answered (row : Row kind) (answers : ∀ name ∈ row.names, Answers call serves name)
    (known : ∀ wanted ∈ row.references, ∃ value, lookup wanted = some value) (state : σ) :
    ∃ values after, (row.interpret lookup call).perform state = (.ok values, after) ∧
      row.Gives lookup serves values := by
  cases row with
  | last before term after =>
      obtain ⟨value, reached, ran, given⟩ := term.answered answers known state
      exact ⟨_, reached, Action.bind_ok _ _ _ _ _ ran, .last before term after value given⟩
  | more before term after others =>
      obtain ⟨value, between, first, given⟩ := term.answered
        (fun name member => answers name (List.mem_append_left _ member))
        (fun wanted member => known wanted (List.mem_append_left _ member)) state
      obtain ⟨values, reached, second, following⟩ := others.answered
        (fun name member => answers name (List.mem_append_right _ member))
        (fun wanted member => known wanted (List.mem_append_right _ member)) between
      refine ⟨_, reached, ?_, .more before term after others value values given following⟩
      rw [Row.interpret, Action.bind_ok _ _ _ _ _ first]
      exact Action.bind_ok _ _ _ _ _ second

end

theorem Phrase.answered (phrase : Phrase kind)
    (answers : ∀ name ∈ phrase.names, Answers call serves name)
    (known : ∀ wanted ∈ phrase.references, ∃ value, lookup wanted = some value) (state : σ) :
    ∃ values after, (phrase.interpret lookup call).perform state = (.ok values, after) ∧
      phrase.Gives lookup serves values := by
  cases phrase with
  | blank gap => exact ⟨[], state, rfl, .blank gap⟩
  | listed before group after =>
      obtain ⟨values, reached, ran, given⟩ := group.answered lookup call serves answers known state
      exact ⟨values, reached, ran, .listed before group after values given⟩

theorem Selector.evaluate_answered (separable : kind.Separable) (selector : Selector kind)
    (phrase : Phrase kind) (written : phrase.print = selector.text.toList)
    (answers : ∀ name ∈ phrase.names, Answers call serves name)
    (known : ∀ wanted ∈ phrase.references, ∃ value, lookup wanted = some value) (state : σ) :
    ∃ values after, (selector.evaluate lookup call).perform state = (.ok values, after) ∧
      phrase.Gives lookup serves values := by
  obtain ⟨values, after, ran, given⟩ := phrase.answered lookup call serves answers known state
  refine ⟨values, after, ?_, given⟩
  rw [selector.evaluate_phrase lookup call separable phrase written, Action.perform_adapt, ran]
  rfl

end Complete

section Values

variable (lookup : Lookup) (serves : Service kind τ)

mutual

theorem Term.served (term : Term kind) (value : Value τ) (given : term.Gives lookup serves value)
    (name : Name kind) (member : name ∈ term.names) : ∃ values plugin, serves name values plugin := by
  cases given with
  | word leaf _ given =>
      cases given with
      | name called some plugin served =>
          cases List.mem_singleton.mp member
          exact ⟨[], plugin, served⟩
      | _ => cases member
  | call called some gap group values plugin given served =>
      rcases List.mem_append.mp member with nested | own
      · exact group.served values given name nested
      · cases List.mem_singleton.mp own
        exact ⟨values, plugin, served⟩

theorem Group.served (group : Group kind) (values : List (Value τ))
    (given : group.Gives lookup serves values) (name : Name kind) (member : name ∈ group.names) :
    ∃ values plugin, serves name values plugin := by
  cases given with
  | empty gap => cases member
  | filled row _ given => exact row.served values given name member

theorem Row.served (row : Row kind) (values : List (Value τ)) (given : row.Gives lookup serves values)
    (name : Name kind) (member : name ∈ row.names) : ∃ values plugin, serves name values plugin := by
  cases given with
  | last before term after value given => exact term.served value given name member
  | more before term after others value values given following =>
      rcases List.mem_append.mp member with first | later
      · exact term.served value given name first
      · exact others.served values following name later

end

theorem Phrase.served (phrase : Phrase kind) (values : List (Value τ))
    (given : phrase.Gives lookup serves values) (name : Name kind) (member : name ∈ phrase.names) :
    ∃ values plugin, serves name values plugin := by
  cases given with
  | blank gap => cases member
  | listed before group after _ given => exact group.served lookup serves values given name member

def Kept (holds : τ → Prop) : Prop :=
  ∀ name values plugin, serves name values plugin →
    (∀ nested, .provided nested ∈ values → holds nested) → holds plugin

variable (holds : τ → Prop)

mutual

theorem Term.gives_hold (kept : Kept serves holds) (term : Term kind) (value : Value τ)
    (given : term.Gives lookup serves value) (plugin : τ) (provided : value = .provided plugin) :
    holds plugin := by
  cases given with
  | word leaf _ given =>
      cases given with
      | name called some made served =>
          cases provided
          exact kept called [] plugin served fun nested member => by cases member
      | _ => cases provided
  | call called some gap group values made given served =>
      cases provided
      exact kept called values plugin served (group.gives_hold kept values given)

theorem Group.gives_hold (kept : Kept serves holds) (group : Group kind) (values : List (Value τ))
    (given : group.Gives lookup serves values) (plugin : τ) (member : .provided plugin ∈ values) :
    holds plugin := by
  cases given with
  | empty gap => cases member
  | filled row _ given => exact row.gives_hold kept values given plugin member

theorem Row.gives_hold (kept : Kept serves holds) (row : Row kind) (values : List (Value τ))
    (given : row.Gives lookup serves values) (plugin : τ) (member : .provided plugin ∈ values) :
    holds plugin := by
  cases given with
  | last before term after value given =>
      exact term.gives_hold kept value given plugin (List.mem_singleton.mp member).symm
  | more before term after others value values given following =>
      rcases List.mem_cons.mp member with first | later
      · exact term.gives_hold kept value given plugin first.symm
      · exact others.gives_hold kept values following plugin later

end

theorem Phrase.gives_hold (kept : Kept serves holds) (phrase : Phrase kind) (values : List (Value τ))
    (given : phrase.Gives lookup serves values) (plugin : τ) (member : .provided plugin ∈ values) :
    holds plugin := by
  cases given with
  | blank gap => cases member
  | listed before group after _ given =>
      exact group.gives_hold lookup serves holds kept values given plugin member

end Values

end PluginNaming
