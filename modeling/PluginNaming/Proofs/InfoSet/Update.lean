import Mathlib.Logic.Equiv.Basic
import PluginNaming.Proofs.Translation

set_option autoImplicit false

namespace PluginNaming.InfoSet

variable [UrlLibrary] {kind : NameKind}

def nameAt? (set : InfoSet kind) (url : Url) : Option (Name kind) :=
  (set.byUrl? url).map Info.name

theorem substitute_name (renames : InfoSet kind) (info : Info kind) :
    (renames.substitute info).name = (renames.nameAt? info.url).getD info.name := by
  unfold substitute nameAt?
  cases renames.byUrl? info.url <;> rfl

section Refusal

variable (infos : List (Info kind)) (urls : (infos.map Info.url).Nodup)

include urls

theorem of_list_refused (fault : Fault) (failed : ofList infos = .error fault) :
    ∃ a ∈ infos, ∃ b ∈ infos, a.url ≠ b.url ∧ a.name = b.name ∧
      fault = .duplicateName kind.label a.name.text := by
  obtain ⟨done, last, rest, state, rfl, built, refused⟩ := fold_stopped add infos empty fault failed
  obtain ⟨content, _⟩ := of_list_keeps done state built
  have apart : ∀ earlier ∈ done, earlier.url ≠ last.url := by
    intro earlier member
    rw [List.map_append, List.nodup_append] at urls
    exact urls.2.2 _ (List.mem_map_of_mem member) _ (List.mem_map_of_mem List.mem_cons_self)
  have stored : ∀ info, info ∈ state.infos ↔ info ∈ done := fun info => by
    rw [content, Ordered.mem_sorted]
  unfold add at refused
  split at refused
  · rename_i taken
    obtain ⟨earlier, member, same⟩ := (has_url_iff state last.url).mp taken
    exact absurd same (apart earlier ((stored earlier).mp member))
  · split at refused
    · rename_i taken
      cases refused
      obtain ⟨earlier, member, same⟩ := (has_name_iff state last.name).mp taken
      have inside := (stored earlier).mp member
      exact ⟨earlier, List.mem_append_left _ inside, last,
        List.mem_append_right _ List.mem_cons_self, apart earlier inside, same, by rw [same]⟩
    · cases refused

theorem of_list_refuses_iff :
    (∃ fault, ofList infos = .error fault) ↔
      ∃ a ∈ infos, ∃ b ∈ infos, a.url ≠ b.url ∧ a.name = b.name := by
  constructor
  · rintro ⟨fault, failed⟩
    obtain ⟨a, left, b, right, apart, same, _⟩ := of_list_refused infos urls fault failed
    exact ⟨a, left, b, right, apart, same⟩
  · rintro ⟨a, left, b, right, apart, same⟩
    cases result : ofList infos with
    | error fault => exact ⟨fault, rfl⟩
    | ok set =>
        have distinct := ((of_list_ok_iff infos set).mp result).1
        exact absurd (congrArg Info.url (List.inj_on_of_nodup_map distinct.names left right same)) apart

end Refusal

section Put

variable (set : InfoSet kind) (info : Info kind)

theorem put_meets (a b : Info kind)
    (left : a = info ∨ a ∈ set.infos ∧ a.url ≠ info.url)
    (right : b = info ∨ b ∈ set.infos ∧ b.url ≠ info.url) (apart : a.url ≠ b.url)
    (same : a.name = b.name) :
    a.name = info.name ∧ ∃ other ∈ set.infos, other.name = info.name ∧ other.url ≠ info.url := by
  rcases left with rfl | ⟨first, off⟩
  · rcases right with rfl | ⟨second, off⟩
    · exact absurd rfl apart
    · exact ⟨rfl, b, second, same.symm, off⟩
  · rcases right with rfl | ⟨second, _⟩
    · exact ⟨same, a, first, same, off⟩
    · exact absurd (congrArg Info.url (same_name set a b first second same)) apart

theorem put_refused (fault : Fault) (failed : set.put info = .error fault) :
    fault = .duplicateName kind.label info.name.text ∧
      ∃ other ∈ set.infos, other.name = info.name ∧ other.url ≠ info.url := by
  obtain ⟨list, put, urls, members⟩ := set.put_listed info
  obtain ⟨a, left, b, right, apart, same, blamed⟩ :=
    of_list_refused list urls fault (put.symm.trans failed)
  obtain ⟨named, conflict⟩ :=
    set.put_meets info a b ((members a).mp left) ((members b).mp right) apart same
  exact ⟨named ▸ blamed, conflict⟩

theorem put_refuses_iff :
    (∃ fault, set.put info = .error fault) ↔
      ∃ other ∈ set.infos, other.name = info.name ∧ other.url ≠ info.url := by
  constructor
  · rintro ⟨fault, failed⟩
    exact (set.put_refused info fault failed).2
  · rintro ⟨other, member, named, apart⟩
    obtain ⟨list, put, urls, members⟩ := set.put_listed info
    rw [put, of_list_refuses_iff list urls]
    exact ⟨other, (members other).mpr (.inr ⟨member, apart⟩), info, (members info).mpr (.inl rfl),
      apart, named⟩

theorem mem_put (next : InfoSet kind) (put : set.put info = .ok next) (other : Info kind) :
    other ∈ next.infos ↔ other = info ∨ other ∈ set.infos ∧ other.url ≠ info.url := by
  obtain ⟨list, listed, _, members⟩ := set.put_listed info
  rw [((of_list_ok_iff list next).mp (listed.symm.trans put)).2, members]

theorem put_again (next : InfoSet kind) (put : set.put info = .ok next) :
    next.put info = .ok next := by
  have present := (mem_put set info next put info).mpr (.inl rfl)
  have found := (by_url_iff next info.url info).mpr ⟨present, rfl⟩
  simp [InfoSet.put, found, replace]

theorem put_commutes (a b : Info kind) (apart : a.url ≠ b.url) (one left other right : InfoSet kind)
    (first : set.put a = .ok one) (following : one.put b = .ok left)
    (second : set.put b = .ok other) (last : other.put a = .ok right) : left = right := by
  refine infos_unique left right fun item => ?_
  rw [mem_put one b left following, mem_put set a one first, mem_put other a right last,
    mem_put set b other second]
  constructor
  · rintro (rfl | ⟨rfl | ⟨member, off⟩, away⟩)
    · exact .inr ⟨.inl rfl, apart.symm⟩
    · exact .inl rfl
    · exact .inr ⟨.inr ⟨member, away⟩, off⟩
  · rintro (rfl | ⟨rfl | ⟨member, off⟩, away⟩)
    · exact .inr ⟨.inl rfl, apart⟩
    · exact .inl rfl
    · exact .inr ⟨.inr ⟨member, away⟩, off⟩

end Put

section Rename

variable (set renames : InfoSet kind)

theorem rename_refused (fault : Fault) (failed : set.rename renames = .error fault) :
    ∃ a ∈ set.infos, ∃ b ∈ set.infos, a.url ≠ b.url ∧
      (renames.substitute a).name = (renames.substitute b).name ∧
      fault = .duplicateName kind.label (renames.substitute a).name.text := by
  have urls : ((set.infos.map renames.substitute).map Info.url).Nodup :=
    (substituted_urls set renames).symm ▸ (infos_distinct set).urls
  obtain ⟨_, left, _, right, apart, same, blamed⟩ := of_list_refused _ urls fault failed
  obtain ⟨a, first, rfl⟩ := List.mem_map.mp left
  obtain ⟨b, second, rfl⟩ := List.mem_map.mp right
  rw [substitute_url, substitute_url] at apart
  exact ⟨a, first, b, second, apart, same, blamed⟩

theorem rename_refuses_iff :
    (∃ fault, set.rename renames = .error fault) ↔
      ∃ a ∈ set.infos, ∃ b ∈ set.infos, a.url ≠ b.url ∧
        (renames.substitute a).name = (renames.substitute b).name := by
  constructor
  · rintro ⟨fault, failed⟩
    obtain ⟨a, left, b, right, apart, same, _⟩ := set.rename_refused renames fault failed
    exact ⟨a, left, b, right, apart, same⟩
  · rintro ⟨a, left, b, right, apart, same⟩
    cases result : set.rename renames with
    | error fault => exact ⟨fault, rfl⟩
    | ok next =>
        have names := (rename_succeeds_iff set renames).mp ⟨next, result⟩
        exact absurd (congrArg Info.url (List.inj_on_of_nodup_map names left right same)) apart

theorem substitute_present (info source : Info kind) (member : source ∈ renames.infos)
    (placed : info.url = source.url) : renames.substitute info = source := by
  have found := (by_url_iff renames info.url source).mpr ⟨member, placed.symm⟩
  obtain ⟨url, name⟩ := info
  cases placed
  simp [substitute, found, Info.rename]

theorem substitute_back (info : Info kind) (member : info ∈ set.infos) :
    set.substitute (renames.substitute info) = info :=
  set.substitute_present _ info member (renames.substitute_url info)

theorem substitute_absent (info : Info kind) (absent : ∀ source ∈ renames.infos, source.url ≠ info.url) :
    renames.substitute info = info := by
  cases found : renames.byUrl? info.url with
  | none => simp [substitute, found]
  | some source =>
      obtain ⟨member, placed⟩ := (by_url_iff renames info.url source).mp found
      exact absurd placed (absent source member)

section Renamed

variable (next : InfoSet kind) (renamed : set.rename renames = .ok next)

include renamed

theorem rename_by_url (url : Url) :
    next.byUrl? url = (set.byUrl? url).map renames.substitute := by
  refine Option.ext fun info => ?_
  rw [by_url_iff, mem_rename set renames next renamed, Option.map_eq_some_iff]
  simp only [by_url_iff]
  constructor
  · rintro ⟨⟨source, member, rfl⟩, placed⟩
    exact ⟨source, ⟨member, (renames.substitute_url source).symm.trans placed⟩, rfl⟩
  · rintro ⟨source, ⟨member, placed⟩, rfl⟩
    exact ⟨⟨source, member, rfl⟩, (renames.substitute_url source).trans placed⟩

theorem rename_name_at (url : Url) :
    next.nameAt? url = (set.nameAt? url).map (renames.nameAt? url).getD := by
  change (next.byUrl? url).map Info.name = ((set.byUrl? url).map Info.name).map _
  rw [rename_by_url set renames next renamed, Option.map_map, Option.map_map]
  refine Option.map_congr fun info found => ?_
  have placed := ((by_url_iff set url info).mp found).2
  exact placed ▸ renames.substitute_name info

theorem rename_urls : next.urls = set.urls := by
  refine Ordered.sorted_congr _ _ fun url => ?_
  simp only [List.mem_map, mem_rename set renames next renamed]
  constructor
  · rintro ⟨_, ⟨source, member, rfl⟩, placed⟩
    exact ⟨source, member, (renames.substitute_url source).symm.trans placed⟩
  · rintro ⟨source, member, placed⟩
    exact ⟨_, ⟨source, member, rfl⟩, (renames.substitute_url source).trans placed⟩

theorem rename_undone : next.rename set = .ok set := by
  have names : (next.infos.map fun info => (set.substitute info).name).Nodup := by
    refine (List.nodup_map_iff_inj_on (infos_distinct next).names.of_map).mpr ?_
    intro a left b right same
    obtain ⟨first, one, rfl⟩ := (mem_rename set renames next renamed a).mp left
    obtain ⟨second, two, rfl⟩ := (mem_rename set renames next renamed b).mp right
    rw [set.substitute_back renames first one, set.substitute_back renames second two] at same
    rw [same_name set first second one two same]
  obtain ⟨last, undone⟩ := (rename_succeeds_iff next set).mpr names
  rw [undone]
  refine congrArg Except.ok (infos_unique last set fun info => ?_)
  rw [mem_rename next set last undone]
  constructor
  · rintro ⟨changed, member, rfl⟩
    obtain ⟨source, inside, rfl⟩ := (mem_rename set renames next renamed changed).mp member
    rw [set.substitute_back renames source inside]
    exact inside
  · intro member
    have moved := (mem_rename set renames next renamed _).mpr ⟨info, member, rfl⟩
    exact ⟨renames.substitute info, moved, set.substitute_back renames info member⟩

end Renamed

section Swapped

variable (a b : Info kind) (left : a ∈ set.infos) (right : b ∈ set.infos)
  (swap : ∀ info, info ∈ renames.infos ↔ info = a.rename b.name ∨ info = b.rename a.name)

include left right swap

theorem substitute_swapped (info : Info kind) (member : info ∈ set.infos) :
    (renames.substitute info).name = Equiv.swap a.name b.name info.name := by
  by_cases first : info = a
  · have given := (swap (a.rename b.name)).mpr (.inl rfl)
    rw [first, renames.substitute_present a _ given rfl, Equiv.swap_apply_left]
    rfl
  · by_cases second : info = b
    · have given := (swap (b.rename a.name)).mpr (.inr rfl)
      rw [second, renames.substitute_present b _ given rfl, Equiv.swap_apply_right]
      rfl
    · rw [renames.substitute_absent info, Equiv.swap_apply_of_ne_of_ne]
      · exact fun same => first (same_name set info a member left same)
      · exact fun same => second (same_name set info b member right same)
      · intro source given placed
        rcases (swap source).mp given with rfl | rfl
        · exact first (same_url set info a member left placed.symm)
        · exact second (same_url set info b member right placed.symm)

-- Two names that change places meet nowhere, although each is taken when it is given away.
theorem rename_swaps : ∃ next, set.rename renames = .ok next := by
  rw [rename_succeeds_iff, List.map_congr_left (set.substitute_swapped renames a b left right swap),
    ← Function.comp_def, ← List.map_map]
  exact (infos_distinct set).names.map (Equiv.swap a.name b.name).injective

end Swapped

end Rename

theorem updates_exact (set : InfoSet kind) :
    (∀ info,
      ((∃ fault, set.put info = .error fault) ↔
        ∃ other ∈ set.infos, other.name = info.name ∧ other.url ≠ info.url) ∧
      (∀ fault, set.put info = .error fault → fault = .duplicateName kind.label info.name.text) ∧
      ∀ next, set.put info = .ok next →
        (∀ other, other ∈ next.infos ↔ other = info ∨ other ∈ set.infos ∧ other.url ≠ info.url) ∧
        next.put info = .ok next) ∧
      (∀ a b, a.url ≠ b.url → ∀ one left other right, set.put a = .ok one → one.put b = .ok left →
        set.put b = .ok other → other.put a = .ok right → left = right) ∧
      ∀ renames : InfoSet kind,
        let fresh (info : Info kind) := (renames.nameAt? info.url).getD info.name
        ((∃ fault, set.rename renames = .error fault) ↔
          ∃ a ∈ set.infos, ∃ b ∈ set.infos, a.url ≠ b.url ∧ fresh a = fresh b) ∧
        (∀ fault, set.rename renames = .error fault → ∃ a ∈ set.infos, ∃ b ∈ set.infos,
          a.url ≠ b.url ∧ fresh a = fresh b ∧ fault = .duplicateName kind.label (fresh a).text) ∧
        (∀ next, set.rename renames = .ok next → next.urls = set.urls ∧
          (∀ url, next.nameAt? url = (set.nameAt? url).map (renames.nameAt? url).getD) ∧
          next.rename set = .ok set) ∧
        ∀ a ∈ set.infos, ∀ b ∈ set.infos,
          (∀ info, info ∈ renames.infos ↔ info = a.rename b.name ∨ info = b.rename a.name) →
          ∃ next, set.rename renames = .ok next := by
  refine ⟨fun info => ⟨set.put_refuses_iff info, ?_, ?_⟩, ?_, fun renames => ⟨?_, ?_, ?_, ?_⟩⟩
  · exact fun fault failed => (set.put_refused info fault failed).1
  · exact fun next put => ⟨set.mem_put info next put, set.put_again info next put⟩
  · exact set.put_commutes
  · simp only [← substitute_name]
    exact set.rename_refuses_iff renames
  · simp only [← substitute_name]
    exact set.rename_refused renames
  · intro next renamed
    exact ⟨set.rename_urls renames next renamed, set.rename_name_at renames next renamed,
      set.rename_undone renames next renamed⟩
  · exact fun a left b right => set.rename_swaps renames a b left right

end PluginNaming.InfoSet
