import PluginNaming.Proofs.Registry.Quarantine
import PluginNaming.Proofs.Registry.Routing
import PluginNaming.Proofs.Url

set_option autoImplicit false

namespace PluginNaming

variable {kind : NameKind} {σ τ α β : Type}

inductive Inserted (further : α → Prop) : List α → List α → Prop where
  | none : Inserted further [] []
  | own (item : α) (few many : List α) (rest : Inserted further few many) :
      Inserted further (item :: few) (item :: many)
  | further (item : α) (few many : List α) (apart : further item) (rest : Inserted further few many) :
      Inserted further few (item :: many)

namespace Inserted

variable (further : α → Prop) (few many : List α)

theorem find (inserted : Inserted further few many) (test : α → Bool)
    (unmet : ∀ item, further item → test item = false) : many.find? test = few.find? test := by
  induction inserted with
  | none => rfl
  | own item few many rest hypothesis =>
      by_cases met : test item = true
      · simp [met]
      · simp [met, hypothesis]
  | further item few many apart rest hypothesis => simp [unmet item apart, hypothesis]

theorem mem_many (inserted : Inserted further few many) (item : α) (member : item ∈ few) :
    item ∈ many := by
  induction inserted with
  | none => exact member
  | own first few many rest hypothesis =>
      rcases List.mem_cons.mp member with rfl | later
      · exact List.mem_cons_self
      · exact List.mem_cons_of_mem first (hypothesis later)
  | further first few many apart rest hypothesis => exact List.mem_cons_of_mem first (hypothesis member)

theorem mem_few (inserted : Inserted further few many) (item : α) (member : item ∈ many)
    (own : ¬ further item) : item ∈ few := by
  induction inserted with
  | none => exact member
  | own first few many rest hypothesis =>
      rcases List.mem_cons.mp member with rfl | later
      · exact List.mem_cons_self
      · exact List.mem_cons_of_mem first (hypothesis later)
  | further first few many apart rest hypothesis =>
      rcases List.mem_cons.mp member with rfl | later
      · exact absurd apart own
      · exact hypothesis later

theorem map (inserted : Inserted further few many) (change : α → β) (other : β → Prop)
    (keeps : ∀ item, further item → other (change item)) :
    Inserted other (few.map change) (many.map change) := by
  induction inserted with
  | none => exact .none
  | own item few many rest hypothesis => exact .own (change item) _ _ hypothesis
  | further item few many apart rest hypothesis =>
      exact .further (change item) _ _ (keeps item apart) hypothesis

end Inserted

section Congruence

variable (lookup : Lookup) (call other : Call kind σ τ) (fault : Stop → Fault)

mutual

theorem Argument.run_congr (argument : Argument kind)
    (same : ∀ name ∈ argument.names, call name = other name) :
    argument.run lookup call fault = argument.run lookup other fault := by
  cases argument with
  | call name arguments =>
      simp only [Argument.names, List.mem_append, List.mem_singleton] at same
      have inner := arguments.run_congr fun nested member => same nested (.inl member)
      rw [Argument.run, Argument.run, inner, same name (.inr rfl)]
  | reference wanted => rfl
  | number value => rfl
  | text value => rfl

theorem Arguments.run_congr (arguments : Arguments kind)
    (same : ∀ name ∈ arguments.names, call name = other name) :
    arguments.run lookup call fault = arguments.run lookup other fault := by
  cases arguments with
  | none => rfl
  | more first others =>
      simp only [Arguments.names, List.mem_append] at same
      have here := first.run_congr fun name member => same name (.inl member)
      have there := others.run_congr fun name member => same name (.inr member)
      rw [Arguments.run, Arguments.run, here, there]
  | broken stop => rfl

end

end Congruence

def Selector.mentions (selector : Selector kind) : List (Name kind) :=
  selector.name :: selector.arguments.names

theorem Selector.evaluate_congr (selector : Selector kind) (lookup : Lookup) (call other : Call kind σ τ)
    (same : ∀ name ∈ selector.mentions, call name = other name) :
    selector.evaluate lookup call = selector.evaluate lookup other := by
  unfold evaluate
  rw [selector.arguments.run_congr lookup call other _ fun name member =>
    same name (List.mem_cons_of_mem _ member)]

section Urls

variable [UrlLibrary]

def Provider.Silent (provider : Provider kind σ τ) (names : List (Name kind)) : Prop :=
  ∀ name ∈ names, provider.infos.hasName name = false

namespace Registry

section Names

variable (names : List (Name kind)) (few many : List (Provider kind σ τ)) (unknown : Unknown kind)
  (inserted : Inserted (fun provider => provider.Silent names) few many)

include inserted

theorem disputed_inserted (name : Name kind) (mentioned : name ∈ names) :
    Disputed many name ↔ Disputed few name := by
  have published : ∀ info, Publishes many info → info.name = name → Publishes few info := by
    rintro info ⟨provider, member, inside⟩ named
    refine ⟨provider, inserted.mem_few _ _ _ provider member fun silent => ?_, inside⟩
    have has := (InfoSet.has_name_iff _ _).mpr ⟨info, inside, named⟩
    rw [silent name mentioned] at has
    cases has
  constructor
  · rintro ⟨a, b, left, right, first, second, different⟩
    exact ⟨a, b, published a left first, published b right second, first, second, different⟩
  · exact disputed_mono few name many fun provider => inserted.mem_many _ _ _ provider

theorem owner_inserted (name : Name kind) (mentioned : name ∈ names) :
    (ofList many unknown).ownerOf? name = (ofList few unknown).ownerOf? name := by
  have same := disputed_inserted names few many inserted name mentioned
  rw [← ambiguous_iff many unknown, ← ambiguous_iff few unknown] at same
  have found := inserted.find _ _ _ (fun provider => provider.infos.hasName name)
    fun provider silent => silent name mentioned
  rw [owner_of_list, owner_of_list, found]
  simp only [same]

theorem require_inserted (name : Name kind) (mentioned : name ∈ names) :
    (ofList many unknown).require name = (ofList few unknown).require name := by
  unfold require
  rw [owner_inserted names few many unknown inserted name mentioned]
  rfl

theorem plugin_inserted (lookup : Lookup) (name : Name kind) (mentioned : name ∈ names) :
    (ofList many unknown).plugin lookup name = (ofList few unknown).plugin lookup name := by
  unfold plugin
  rw [require_inserted names few many unknown inserted name mentioned]

end Names

theorem select_same (selector : Selector kind) (few many : List (Provider kind σ τ))
    (unknown : Unknown kind) (lookup : Lookup)
    (inserted : Inserted (fun provider => provider.Silent selector.mentions) few many) :
    (ofList many unknown).select lookup selector = (ofList few unknown).select lookup selector := by
  have own : selector.name ∈ selector.mentions := List.mem_cons_self
  have asked := plugin_inserted selector.mentions few many unknown inserted lookup
  unfold select
  rw [require_inserted _ few many unknown inserted selector.name own, asked selector.name own,
    selector.evaluate_congr lookup _ _ asked]

def labelled (providers : List (Nat × Provider kind σ τ)) : List (Provider kind (σ × Trace kind τ) τ) :=
  providers.map fun entry => entry.2.recorded entry.1

theorem select_inserted (selector : Selector kind) (few many : List (Nat × Provider kind σ τ))
    (unknown : Unknown kind) (lookup : Lookup)
    (inserted : Inserted (fun entry => entry.2.Silent selector.mentions) few many) :
    (ofList (many.map Prod.snd) unknown).select lookup selector =
        (ofList (few.map Prod.snd) unknown).select lookup selector ∧
      (ofList (labelled many) unknown).select lookup selector =
        (ofList (labelled few) unknown).select lookup selector := by
  constructor
  · apply select_same
    exact inserted.map _ _ _ Prod.snd _ fun entry silent => silent
  · apply select_same
    exact inserted.map _ _ _ _ _ fun entry silent => silent

end Registry

end Urls

namespace Registry

attribute [local instance] UrlLibrary.sample

namespace Shifted

def sole (name : Name .plugin) (url : Url) : Provider .plugin Nat Nat where
  name := ⟨"sole", by decide⟩
  url := url
  infos :=
    { infos := [⟨url, name⟩]
      ordered := List.pairwise_singleton _ _
      distinctNames := List.pairwise_singleton _ _
      distinctUrls := List.pairwise_singleton _ _ }
  plugin := fun _ _ _ count => (.ok count, count + 1)

def a : Name .plugin := ⟨"a", by decide⟩

def b : Name .plugin := ⟨"b", by decide⟩

def ofA : Provider .plugin Nat Nat := sole a ⟨"a://a", by rfl⟩

def ofB : Provider .plugin Nat Nat := sole b ⟨"a://b", by rfl⟩

def ofC : Provider .plugin Nat Nat := sole ⟨"c", by decide⟩ ⟨"a://c", by rfl⟩

def few : List (Nat × Provider .plugin Nat Nat) := [(0, ofA), (1, ofB)]

def many : List (Nat × Provider .plugin Nat Nat) := [(0, ofA), (2, ofC), (1, ofB)]

def selector : Selector .plugin := ⟨a, "(b)"⟩

def phrase : Phrase .plugin :=
  .listed .none (.filled (.last .none (.word (.name b (by decide))) .none)) .none

theorem mentioned : selector.mentions = [a, b] := by
  have written : phrase.print = selector.text.toList := by decide
  rw [Selector.mentions, selector.arguments_phrase plugin_separable phrase written,
    phrase.arguments_names]
  rfl

end Shifted

open Shifted in
theorem select_shifted :
    let unknown := unknownName .plugin
    let run := fun entries => (ofList (labelled entries) unknown).select (fun _ => none) selector
    Inserted (fun entry => entry.2.Silent selector.mentions) few many ∧
      (ofList (labelled few) unknown).owners.find? b = some 1 ∧
      (ofList (labelled many) unknown).owners.find? b = some 2 ∧ run many = run few ∧
      (run many).perform (0, []) = (.ok 1, 2, [⟨1, b, []⟩, ⟨0, a, [.provided 0]⟩]) := by
  intro unknown run
  have silent : ofC.Silent selector.mentions := by
    rw [mentioned]
    unfold Provider.Silent
    decide
  have inserted : Inserted (fun entry => entry.2.Silent selector.mentions) few many :=
    .own _ _ _ (.further _ _ _ silent (.own _ _ _ .none))
  have same : run many = run few := (select_inserted selector few many unknown _ inserted).2
  refine ⟨inserted, by rfl, by rfl, same, ?_⟩
  rw [same]
  unfold run select
  rw [selector.evaluate_phrase _ _ plugin_separable phrase (by decide)]
  rfl

end Registry

end PluginNaming
