import PluginNaming.Proofs.AliasSet.Merge
import PluginNaming.Proofs.Selector.Interpretation
import PluginNaming.Proofs.Url

set_option autoImplicit false

namespace PluginNaming

variable {kind : NameKind} {σ τ : Type}

def AliasSet.image [UrlLibrary] (set : AliasSet kind) (name : Name kind) : Selector kind :=
  (set.selector? name).getD { name, text := "" }

def Selector.written (selector : Selector kind) : List Char :=
  selector.name.text.toList ++ selector.text.toList

def Word.substitute (image : Name kind → Selector kind) : Word kind → List Char
  | .name called _ => (image called).written
  | leaf => leaf.print

mutual

def Term.substitute (image : Name kind → Selector kind) : Term kind → List Char
  | .word leaf => leaf.substitute image
  | .call name _ gap group => (image name).written ++ (gap.blanks ++ group.substitute image)

def Group.substitute (image : Name kind → Selector kind) : Group kind → List Char
  | .empty gap => '(' :: (gap.blanks ++ [')'])
  | .filled row => '(' :: row.substitute image

def Row.substitute (image : Name kind → Selector kind) : Row kind → List Char
  | .last before term after => before.blanks ++ (term.substitute image ++ (after.blanks ++ [')']))
  | .more before term after others =>
      before.blanks ++ (term.substitute image ++ (after.blanks ++ ',' :: others.substitute image))

end

def Phrase.substitute (image : Name kind → Selector kind) : Phrase kind → List Char
  | .blank gap => gap.blanks
  | .listed before group after => before.blanks ++ (group.substitute image ++ after.blanks)

def Selector.substitute (selector : Selector kind) (image : Name kind → Selector kind)
    (phrase : Phrase kind) : Selector kind where
  name := (image selector.name).name
  text := String.ofList ((image selector.name).text.toList ++ phrase.substitute image)

mutual

def Term.applied : Term kind → List (Name kind)
  | .word _ => []
  | .call name _ _ group => name :: group.applied

def Group.applied : Group kind → List (Name kind)
  | .empty _ => []
  | .filled row => row.applied

def Row.applied : Row kind → List (Name kind)
  | .last _ term _ => term.applied
  | .more _ term _ others => term.applied ++ others.applied

end

def Phrase.applied : Phrase kind → List (Name kind)
  | .blank _ => []
  | .listed _ group _ => group.applied

def Selector.names (selector : Selector kind) (phrase : Phrase kind) : List (Name kind) :=
  selector.name :: phrase.names

def Selector.applied (selector : Selector kind) : Phrase kind → List (Name kind)
  | .blank _ => []
  | .listed _ group _ => selector.name :: group.applied

theorem Selector.applied_of_phrase (selector : Selector kind) (phrase : Phrase kind)
    (name : Name kind) (member : name ∈ phrase.applied) : name ∈ selector.applied phrase := by
  cases phrase with
  | blank gap => cases member
  | listed before group after => exact List.mem_cons_of_mem _ member

structure Stands (lookup : Lookup) (image : Name kind → Selector kind) (outer inner : Call kind σ τ)
    (name : Name kind) : Prop where
  named : (image name).name.text ≠ ""
  plain : (image name).text = "" → ∀ values, outer name values = inner (image name).name values
  declared : (image name).text ≠ "" →
    (∃ phrase : Phrase kind, phrase.print = (image name).text.toList) ∧
      outer name [] = (image name).evaluate lookup inner >>= inner (image name).name

section Simulation

variable (lookup : Lookup) (image : Name kind → Selector kind) (outer inner : Call kind σ τ)

-- What an alias declares may end in blanks, which then stand behind the term.
def Term.Simulated (term : Term kind) : Prop :=
  ∃ (other : Term kind) (gap : Gap), term.substitute image = other.print ++ gap.blanks ∧
    Action.Agrees (term.interpret lookup outer) (other.interpret lookup inner)

theorem name_simulated (separable : kind.Separable) (name : Name kind) (some : name.text ≠ "")
    (stands : Stands lookup image outer inner name) :
    Term.Simulated lookup image outer inner (.word (.name name some)) := by
  by_cases plain : (image name).text = ""
  · refine ⟨.word (.name (image name).name stands.named), .none, ?_, ?_⟩
    · simp [Term.substitute, Word.substitute, Selector.written, plain, Term.print, Word.print, Gap.none]
    · simp only [Term.interpret, Word.interpret, stands.plain plain]
      exact .refl _
  · obtain ⟨⟨phrase, printed⟩, called⟩ := stands.declared plain
    rw [Selector.evaluate_phrase _ lookup inner separable phrase printed] at called
    cases phrase with
    | blank gap =>
        refine ⟨.word (.name (image name).name stands.named), gap, ?_, ?_⟩
        · simp [Term.substitute, Word.substitute, Selector.written, ← printed, Term.print, Word.print,
            Phrase.print]
        · simp only [Term.interpret, Word.interpret, called]
          exact .refl _
    | listed before group after =>
        refine ⟨.call (image name).name stands.named before group, after, ?_, ?_⟩
        · simp [Term.substitute, Word.substitute, Selector.written, ← printed, Term.print, Phrase.print]
        · simp only [Term.interpret, Word.interpret, called, bind_assoc]
          exact .bind _ _ _ _ (.adapt _ _) fun values => .refl _

theorem word_simulated (separable : kind.Separable) (word : Word kind)
    (stands : ∀ name ∈ word.names, Stands lookup image outer inner name) :
    Term.Simulated lookup image outer inner (.word word) := by
  cases word with
  | name called some =>
      exact name_simulated lookup image outer inner separable called some
        (stands called List.mem_cons_self)
  | reference wanted =>
      exact ⟨.word (.reference wanted), .none, (List.append_nil _).symm, .refl _⟩
  | number written =>
      exact ⟨.word (.number written), .none, (List.append_nil _).symm, .refl _⟩
  | text pieces =>
      exact ⟨.word (.text pieces), .none, (List.append_nil _).symm, .refl _⟩

mutual

theorem Term.simulated (separable : kind.Separable) (term : Term kind)
    (stands : ∀ name ∈ term.names, Stands lookup image outer inner name)
    (bare : ∀ name ∈ term.applied, (image name).text = "") :
    term.Simulated lookup image outer inner := by
  cases term with
  | word leaf => exact word_simulated lookup image outer inner separable leaf stands
  | call name some gap group =>
      simp only [Term.names, Term.applied, List.mem_append, List.mem_cons] at stands bare
      obtain ⟨other, printed, agrees⟩ := group.simulated separable
        (fun nested member => stands nested (.inl member)) (fun nested member => bare nested (.inr member))
      have own := stands name (.inr (.inl rfl))
      have plain := bare name (.inl rfl)
      refine ⟨.call (image name).name own.named gap other, .none, ?_, ?_⟩
      · simp [Term.substitute, Selector.written, plain, printed, Term.print, Gap.none]
      · simp only [Term.interpret, own.plain plain]
        exact .bind _ _ _ _ agrees fun values => .refl _

theorem Group.simulated (separable : kind.Separable) (group : Group kind)
    (stands : ∀ name ∈ group.names, Stands lookup image outer inner name)
    (bare : ∀ name ∈ group.applied, (image name).text = "") :
    ∃ other : Group kind, group.substitute image = other.print ∧
      Action.Agrees (group.interpret lookup outer) (other.interpret lookup inner) := by
  cases group with
  | empty gap => exact ⟨.empty gap, rfl, .refl _⟩
  | filled row =>
      obtain ⟨other, printed, agrees⟩ := row.simulated separable stands bare
      exact ⟨.filled other, congrArg ('(' :: ·) printed, agrees⟩

theorem Row.simulated (separable : kind.Separable) (row : Row kind)
    (stands : ∀ name ∈ row.names, Stands lookup image outer inner name)
    (bare : ∀ name ∈ row.applied, (image name).text = "") :
    ∃ other : Row kind, row.substitute image = other.print ∧
      Action.Agrees (row.interpret lookup outer) (other.interpret lookup inner) := by
  cases row with
  | last before term after =>
      obtain ⟨other, gap, printed, agrees⟩ := term.simulated separable stands bare
      refine ⟨.last before other (gap.append after), ?_, ?_⟩
      · simp [Row.substitute, Row.print, printed, Gap.append]
      · simp only [Row.interpret]
        exact .bind _ _ _ _ agrees fun value => .refl _
  | more before term after others =>
      simp only [Row.names, Row.applied, List.mem_append] at stands bare
      obtain ⟨other, gap, printed, agrees⟩ := term.simulated separable
        (fun name member => stands name (.inl member)) (fun name member => bare name (.inl member))
      obtain ⟨following, remains, also⟩ := others.simulated separable
        (fun name member => stands name (.inr member)) (fun name member => bare name (.inr member))
      refine ⟨.more before other (gap.append after) following, ?_, ?_⟩
      · simp [Row.substitute, Row.print, printed, remains, Gap.append]
      · simp only [Row.interpret]
        exact .bind _ _ _ _ agrees fun value => .bind _ _ _ _ also fun values => .refl _

end

theorem Phrase.simulated (separable : kind.Separable) (phrase : Phrase kind)
    (stands : ∀ name ∈ phrase.names, Stands lookup image outer inner name)
    (bare : ∀ name ∈ phrase.applied, (image name).text = "") :
    ∃ other : Phrase kind, phrase.substitute image = other.print ∧
      Action.Agrees (phrase.interpret lookup outer) (other.interpret lookup inner) := by
  cases phrase with
  | blank gap => exact ⟨.blank gap, rfl, .refl _⟩
  | listed before group after =>
      obtain ⟨other, printed, agrees⟩ := group.simulated lookup image outer inner separable stands bare
      exact ⟨.listed before other after, by rw [Phrase.substitute, Phrase.print, printed], agrees⟩

theorem Phrase.extended (phrase : Phrase kind) (gap : Gap) :
    ∃ other : Phrase kind, phrase.print ++ gap.blanks = other.print ∧
      other.interpret lookup inner = phrase.interpret lookup inner := by
  cases phrase with
  | blank own => exact ⟨.blank (own.append gap), rfl, rfl⟩
  | listed before group after =>
      exact ⟨.listed before group (after.append gap), by simp [Phrase.print, Gap.append], rfl⟩

end Simulation

section Urls

variable [UrlLibrary]

def Provider.logged (provider : Provider kind σ τ) : Provider kind (σ × Log kind τ) τ :=
  { provider with plugin := fun lookup => (provider.plugin lookup).logged }

namespace AliasedProvider

def logged (provider : AliasedProvider kind σ τ) : AliasedProvider kind (σ × Log kind τ) τ :=
  { provider with inner := provider.inner.logged }

-- Asked for a name it asks for the target instead, once. What the alias declares is evaluated first,
-- and its names are asked for as they stand.
structure Delegates (lookup : Lookup) (outer inner : Call kind σ τ) (name : Name kind)
    (target : Selector kind) : Prop where
  plain : target.text = "" → ∀ values, outer name values = inner target.name values
  declared : target.text ≠ "" →
    outer name [] = target.evaluate lookup inner >>= inner target.name

theorem delegates (provider : AliasedProvider kind σ τ) (lookup : Lookup) (name : Name kind)
    (target : Selector kind) (found : provider.target name = .ok target) :
    Delegates lookup (provider.plugin lookup) (provider.inner.plugin lookup) name target where
  plain empty values := by simp [plugin, found, empty, liftExcept]
  declared some := by simp [plugin, found, some, liftExcept]

section Target

variable (aliases : AliasSet kind) (inner : Provider kind σ τ) (unknown : Unknown kind)
  (provider : AliasedProvider kind σ τ)

theorem wrap_ok (wrapped : wrap aliases inner unknown = .ok provider) :
    aliases.merge inner.infos = .ok provider.infos ∧ provider.aliases = aliases ∧
      provider.inner = inner ∧ provider.unknown = unknown := by
  obtain ⟨merged, succeeds, built⟩ := (bind_ok_iff _ _ _).mp wrapped
  cases built
  exact ⟨succeeds, rfl, rfl, rfl⟩

theorem wrap_logged (wrapped : wrap aliases inner unknown = .ok provider) :
    wrap aliases inner.logged unknown = .ok provider.logged := by
  obtain ⟨merged, succeeds, built⟩ := (bind_ok_iff _ _ _).mp wrapped
  cases built
  exact (bind_ok_iff _ _ _).mpr ⟨merged, succeeds, rfl⟩

theorem visible_declared (wrapped : wrap aliases inner unknown = .ok provider) (name : Name kind)
    (visible : provider.infos.hasName name = true) :
    name ∈ aliases.plain ∨ (aliases.selector? name).isSome = true := by
  obtain ⟨succeeds, _⟩ := wrap_ok aliases inner unknown provider wrapped
  obtain ⟨merged, again, shows⟩ := aliases.merge_shows inner.infos
  cases succeeds.symm.trans again
  obtain ⟨info, member, rfl⟩ := (InfoSet.has_name_iff _ _).mp visible
  obtain ⟨d, declared, named, _⟩ := aliases.shown_declared inner.infos info ((shows info).mp member)
  rw [← aliases.tabulated.declared, List.mem_map]
  exact ⟨d, declared, named⟩

theorem target_visible (wrapped : wrap aliases inner unknown = .ok provider) (name : Name kind)
    (visible : provider.infos.hasName name = true) :
    provider.target name = .ok (aliases.image name) := by
  obtain ⟨_, rfl, _⟩ := wrap_ok aliases inner unknown provider wrapped
  unfold target AliasSet.resolve AliasSet.image
  rw [if_pos visible]
  by_cases plain : name ∈ provider.aliases.plain
  · simp [plain, provider.aliases.tabulated.apart name plain]
  · have declared := (visible_declared _ _ _ _ wrapped name visible).resolve_left plain
    obtain ⟨selector, selects⟩ := Option.isSome_iff_exists.mp declared
    by_cases empty : selector.text = ""
    · cases selector
      cases empty
      simp [plain, selects]
    · simp [plain, selects, empty]

theorem stands_visible (least : 0 < kind.least) (lookup : Lookup)
    (wrapped : wrap aliases inner unknown = .ok provider) (name : Name kind)
    (visible : provider.infos.hasName name = true)
    (spelled : (aliases.image name).text ≠ "" →
      ∃ phrase : Phrase kind, phrase.print = (aliases.image name).text.toList) :
    Stands lookup aliases.image (provider.plugin lookup) (inner.plugin lookup) name := by
  have found := target_visible aliases inner unknown provider wrapped name visible
  obtain ⟨_, _, same, _⟩ := wrap_ok aliases inner unknown provider wrapped
  have delegates := provider.delegates lookup name _ found
  rw [same] at delegates
  exact ⟨name_some least _, delegates.plain,
    fun declared => ⟨spelled declared, delegates.declared declared⟩⟩

end Target

theorem select_agrees (separable : kind.Separable) (least : 0 < kind.least) (aliases : AliasSet kind)
    (inner : Provider kind σ τ) (unknown : Unknown kind) (provider : AliasedProvider kind σ τ)
    (wrapped : wrap aliases inner unknown = .ok provider) (lookup : Lookup) (selector : Selector kind)
    (phrase : Phrase kind) (written : phrase.print = selector.text.toList)
    (visible : ∀ name ∈ selector.names phrase, provider.infos.hasName name = true)
    (spelled : ∀ name ∈ selector.names phrase, (aliases.image name).text ≠ "" →
      ∃ declared : Phrase kind, declared.print = (aliases.image name).text.toList)
    (bare : ∀ name ∈ selector.applied phrase, (aliases.image name).text = "") :
    Action.Agrees (provider.toProvider.select lookup selector)
      (inner.select lookup (selector.substitute aliases.image phrase)) := by
  have stands : ∀ name ∈ selector.names phrase,
      Stands lookup aliases.image (provider.plugin lookup) (inner.plugin lookup) name :=
    fun name member => stands_visible aliases inner unknown provider least lookup wrapped name
      (visible name member) (spelled name member)
  have own := stands selector.name List.mem_cons_self
  unfold Provider.select
  rw [selector.evaluate_phrase lookup _ separable phrase written]
  by_cases plain : (aliases.image selector.name).text = ""
  · obtain ⟨other, printed, agrees⟩ := phrase.simulated lookup aliases.image (provider.plugin lookup)
      (inner.plugin lookup) separable (fun name member => stands name (List.mem_cons_of_mem _ member))
      (fun name member => bare name (selector.applied_of_phrase phrase name member))
    have text : other.print = (selector.substitute aliases.image phrase).text.toList := by
      simp [Selector.substitute, plain, printed]
    rw [Selector.evaluate_phrase _ lookup _ separable other text]
    refine .bind _ _ _ _ (.adapt_both _ _ _ _ agrees) fun values => ?_
    change Action.Agrees (provider.plugin lookup selector.name values) _
    rw [own.plain plain values]
    exact .refl _
  · obtain ⟨gap, rfl⟩ : ∃ gap, phrase = .blank gap := by
      cases phrase with
      | blank gap => exact ⟨gap, rfl⟩
      | listed before group after => exact absurd (bare selector.name List.mem_cons_self) plain
    obtain ⟨⟨declared, printed⟩, called⟩ := own.declared plain
    obtain ⟨other, longer, same⟩ := declared.extended lookup (inner.plugin lookup) gap
    have text : other.print = (selector.substitute aliases.image (.blank gap)).text.toList := by
      simp [Selector.substitute, Phrase.substitute, ← longer, printed]
    rw [Selector.evaluate_phrase _ lookup _ separable other text, same]
    change Action.Agrees (provider.plugin lookup selector.name []) _
    rw [called, Selector.evaluate_phrase _ lookup _ separable declared printed]
    exact .bind _ _ _ _ (.adapt_both _ _ _ _ (.refl _)) fun values => .refl _

-- Of the logged provider the agreement says that the calls are the same, in the same order and with
-- the same values. A kind with an empty name is left out: written out, that name would vanish from
-- its list.
theorem select_substituted (separable : kind.Separable) (least : 0 < kind.least)
    (aliases : AliasSet kind) (inner : Provider kind σ τ) (unknown : Unknown kind)
    (provider : AliasedProvider kind σ τ) (wrapped : wrap aliases inner unknown = .ok provider)
    (lookup : Lookup) (selector : Selector kind) (phrase : Phrase kind)
    (written : phrase.print = selector.text.toList)
    (visible : ∀ name ∈ selector.names phrase, provider.infos.hasName name = true)
    (spelled : ∀ name ∈ selector.names phrase, (aliases.image name).text ≠ "" →
      ∃ declared : Phrase kind, declared.print = (aliases.image name).text.toList)
    (bare : ∀ name ∈ selector.applied phrase, (aliases.image name).text = "") :
    Action.Agrees (provider.toProvider.select lookup selector)
        (inner.select lookup (selector.substitute aliases.image phrase)) ∧
      wrap aliases inner.logged unknown = .ok provider.logged ∧
      Action.Agrees (provider.logged.toProvider.select lookup selector)
        (inner.logged.select lookup (selector.substitute aliases.image phrase)) := by
  have logged := wrap_logged aliases inner unknown provider wrapped
  exact ⟨select_agrees separable least aliases inner unknown provider wrapped lookup selector phrase
      written visible spelled bare, logged,
    select_agrees separable least aliases inner.logged unknown provider.logged logged lookup selector
      phrase written visible spelled bare⟩

end AliasedProvider

end Urls

namespace AliasedProvider

attribute [local instance] UrlLibrary.sample

namespace Swapped

def x : Name .plugin := ⟨"x", by decide⟩

def y : Name .plugin := ⟨"y", by decide⟩

def z : Name .plugin := ⟨"z", by decide⟩

-- Both targets are names that the other declarations use in another sense.
def swaps : AliasSet .plugin :=
  ⟨_, ⟨[⟨x, .renamed ⟨y, ""⟩⟩, ⟨y, .renamed ⟨z, "(x)"⟩⟩], rfl⟩⟩

def counting : Provider .plugin Nat Nat where
  name := ⟨"p", by decide⟩
  url := ⟨"a://p", by rfl⟩
  infos :=
    { infos := [⟨⟨"a://y", by rfl⟩, y⟩, ⟨⟨"a://z", by rfl⟩, z⟩]
      ordered := by unfold Ordered.Increasing; decide
      distinctNames := by decide
      distinctUrls := by decide }
  plugin := fun _ _ _ count => (.ok count, count + 1)

def shown : AliasedProvider .plugin Nat Nat where
  aliases := swaps
  infos :=
    { infos := [⟨⟨"a://y", by rfl⟩, x⟩, ⟨⟨"a://z", by rfl⟩, y⟩]
      ordered := by unfold Ordered.Increasing; decide
      distinctNames := by decide
      distinctUrls := by decide }
  inner := counting
  unknown := unknownName .plugin

def phrase (name : Name .plugin) (some : name.text ≠ "") : Phrase .plugin :=
  .listed .none (.filled (.last .none (.word (.name name some)) .none)) .none

end Swapped

open Swapped in
theorem select_swapped :
    (NameKind.plugin.Separable ∧ 0 < NameKind.plugin.least ∧
      wrap swaps counting (unknownName .plugin) = .ok shown) ∧
      Action.Agrees (shown.toProvider.select (fun _ => none) ⟨x, "(y)"⟩)
        (counting.select (fun _ => none) ⟨y, "(z(x))"⟩) := by
  have wrapped : wrap swaps counting (unknownName .plugin) = .ok shown := by rfl
  have visible : ∀ name ∈ [x, y], shown.infos.hasName name = true := by decide
  have spelled : ∀ name ∈ [x, y], (swaps.image name).text ≠ "" →
      ∃ declared : Phrase .plugin, declared.print = (swaps.image name).text.toList := by
    intro name member declared
    simp only [List.mem_cons, List.not_mem_nil, or_false] at member
    rcases member with rfl | rfl
    · exact absurd rfl declared
    · exact ⟨phrase x (by decide), rfl⟩
  have bare : ∀ name ∈ [x], (swaps.image name).text = "" := by
    intro name member
    cases List.mem_singleton.mp member
    rfl
  exact ⟨⟨plugin_separable, by decide, wrapped⟩, (select_substituted plugin_separable (by decide)
    swaps counting (unknownName .plugin) shown wrapped (fun _ => none) ⟨x, "(y)"⟩
    (phrase y (by decide)) rfl visible spelled bare).1⟩

end AliasedProvider

end PluginNaming
