import Mathlib.Data.List.Perm.Basic
import PluginNaming.Catalog.Record
import PluginNaming.Proofs.AliasSet.Canonical
import PluginNaming.Proofs.Fold
import PluginNaming.Proofs.Name
import PluginNaming.Proofs.Ordered.Unique

set_option autoImplicit false

namespace PluginNaming

open Data Ordered

def Record.members (record : Record) : List (String × Json) :=
  record.environment.getD []

-- The same record, but for the order of the environment, which formats do not keep.
structure Record.Same (record other : Record) : Prop where
  providers : record.providers = other.providers
  environment : record.members.Perm other.members

theorem parsed_of_read {α ε : Type} (result : Except ε α) (value : α)
    (found : result.toOption = some value) : result = .ok value := by
  cases result with
  | error fault => cases found
  | ok other =>
      cases found
      rfl

theorem Contents.member_read (entry : Name .environment × Json) : ofMember? (member entry) = some entry := by
  rw [ofMember?, member, entry.1.parse_text]
  rfl

variable [UrlLibrary]

theorem Contents.record_members (contents : Contents) :
    contents.record.members = contents.environment.values.map member := by
  unfold Record.members record
  dsimp only
  split
  · rename_i empty
    rw [empty]
    rfl
  · rfl

structure Entry.FromText (entry : Entry) : Prop where
  infos : entry.infos.FromText
  aliases : ∀ aliases ∈ entry.aliases, aliases.FromText

structure Contents.FromText (contents : Contents) : Prop where
  entries : ∀ entry ∈ contents.entries, entry.FromText
  ordered : Increasing contents.environment.values.keys

theorem Entry.of_record_made (record : EntryRecord) (entry : Entry)
    (read : ofRecord? record = some entry) : entry.FromText := by
  obtain ⟨name, _, read⟩ := Option.bind_eq_some_iff.mp read
  obtain ⟨url, _, read⟩ := Option.bind_eq_some_iff.mp read
  obtain ⟨infos, listed, read⟩ := Option.bind_eq_some_iff.mp read
  obtain ⟨aliases, declared, read⟩ := Option.bind_eq_some_iff.mp read
  cases read
  refine ⟨.parsed record.infos infos (parsed_of_read _ _ listed), ?_⟩
  rintro set rfl
  cases given : record.aliases with
  | none =>
      rw [given] at declared
      cases declared
  | some text =>
      rw [given, Option.mapM_some] at declared
      obtain ⟨_, found, same⟩ := Option.map_eq_some_iff.mp declared
      cases same
      exact ⟨text, parsed_of_read _ _ found⟩

theorem Contents.of_record_made (record : Record) (contents : Contents)
    (read : ofRecord? record = some contents) : contents.FromText := by
  obtain ⟨entries, made, read⟩ := Option.bind_eq_some_iff.mp read
  obtain ⟨members, _, read⟩ := Option.bind_eq_some_iff.mp read
  cases read
  refine ⟨fun entry member => ?_, Table.of_entries_increasing members⟩
  obtain ⟨source, _, found⟩ := mem_mapped _ _ entries made entry member
  exact Entry.of_record_made source entry found

section Written

variable [UrlLibrary.NeverBegins ','] [UrlLibrary.NeverBegins '(']

theorem Entry.record_read (entry : Entry) (made : entry.FromText) : ofRecord? entry.record = some entry := by
  have infos := (InfoSet.text_canonical plugin_separable.avoids).accepted entry.infos made.infos
  have aliases : (entry.aliases.map AliasSet.text).mapM
      (fun text => (AliasSet.parse .plugin text).toOption) = some entry.aliases := by
    cases given : entry.aliases with
    | none => rfl
    | some set =>
        have accepted := (AliasSet.text_canonical plugin_separable.avoids).accepted set (made.aliases set given)
        rw [Option.map_some, Option.mapM_some, accepted]
        rfl
  simp only [ofRecord?, record, entry.name.parse_text, entry.url.require_text, infos, aliases]
  rfl

namespace Contents

theorem record_read (contents : Contents) (made : contents.FromText) (again : Record)
    (same : contents.record.Same again) : ofRecord? again = some contents := by
  have perm := same.environment
  rw [record_members] at perm
  obtain ⟨entries, shape, order⟩ :=
    (congrFun (congrFun (List.eq_map_comp_perm member) again.members) contents.environment.values).mpr perm.symm
  have entries_read : (again.providers.getD []).mapM Entry.ofRecord? = some contents.entries := by
    rw [← same.providers]
    exact map_back _ _ _ fun entry member => entry.record_read (made.entries entry member)
  have values_read : (again.environment.getD []).mapM ofMember? = some entries := by
    change again.members.mapM ofMember? = some entries
    rw [shape]
    exact map_back _ _ _ fun entry _ => member_read entry
  have values : Environment.ofList entries = contents.environment :=
    congrArg Environment.mk (Table.of_entries_perm entries _ made.ordered order)
  simp only [ofRecord?, entries_read, values_read]
  exact congrArg (fun environment => some (Contents.mk contents.entries environment)) values

end Contents

end Written

end PluginNaming
