import PluginNaming.AliasSet
import PluginNaming.Proofs.Fold
import PluginNaming.Proofs.Selector.Course
import PluginNaming.Proofs.Selector.Reading
import PluginNaming.Proofs.Url

set_option autoImplicit false

namespace PluginNaming

variable {kind : NameKind} {σ τ : Type}

namespace Fault

def PointsInto (text : String) : Fault → Prop
  | .invalidCharacter subject place character =>
      subject = text ∧ place < text.length ∧ text.toList[place]? = some character
  | .endOfText subject _ => subject = text
  | _ => True

theorem pointing_points (text : String) (place : Nat) : (pointing text place).PointsInto text := by
  unfold pointing
  cases found : text.toList[place]? with
  | none => rfl
  | some character =>
      obtain ⟨bound, _⟩ := List.getElem?_eq_some_iff.mp found
      exact ⟨rfl, bound, found⟩

theorem points_unsubject (fault : Fault) (text : String) (unsubject : fault.subject? = none) :
    fault.PointsInto text := by
  cases fault with
  | invalidCharacter subject place character => cases unsubject
  | endOfText subject expected => cases unsubject
  | _ => trivial

theorem subject_of_points (fault : Fault) (text : String) (points : fault.PointsInto text) :
    fault.subject? = some text ∨ fault.subject? = none := by
  cases fault with
  | invalidCharacter subject place character => exact .inl (congrArg some points.1)
  | endOfText subject expected => exact .inl (congrArg some points)
  | _ => exact .inr rfl

theorem relocate_unsubject (fault : Fault) (text : String) (offset : Nat)
    (unsubject : fault.subject? = none) : fault.relocate text offset = fault := by
  cases fault with
  | invalidCharacter subject place character => cases unsubject
  | endOfText subject expected => cases unsubject
  | _ => rfl

theorem relocate_points (fault : Fault) (before part : String) (points : fault.PointsInto part) :
    (fault.relocate (before ++ part) before.length).PointsInto (before ++ part) := by
  cases fault with
  | invalidCharacter subject place character =>
      obtain ⟨_, bound, found⟩ := points
      refine ⟨rfl, ?_, ?_⟩
      · rw [String.length_append]
        omega
      · rw [String.toList_append, ← String.length_toList, Nat.add_comm, List.getElem?_append_right
          (Nat.le_add_right _ _), Nat.add_sub_cancel_left, found]
  | endOfText subject expected => rfl
  | _ => trivial

end Fault

theorem Stop.fault_points (stop : Stop) (text : String) : (stop.fault text).PointsInto text := by
  unfold fault
  cases stop.cause with
  | unexpected => exact Fault.pointing_points text _
  | ended expected => rfl
  | nameLength label name least most => trivial
  | badUrl defect => trivial

theorem listed_points {α : Type} (entry : EntryReader α) (expected text : String) (fault : Fault)
    (failed : readListed entry expected text = .error fault) : fault.PointsInto text := by
  unfold readListed at failed
  split at failed
  · cases failed
  · rename_i c rest _
    cases read : readEntries entry expected (c :: rest) with
    | ok items =>
        rw [read] at failed
        cases failed
    | error stop =>
        rw [read] at failed
        cases failed
        exact stop.fault_points text

theorem Name.parse_points (text : String) (fault : Fault) (failed : parse kind text = .error fault) :
    fault.PointsInto text := by
  unfold parse at failed
  split at failed
  · cases failed
  · split at failed
    · cases failed
      exact Fault.pointing_points text _
    · cases failed
      trivial

theorem Selector.parse_points (text : String) (fault : Fault)
    (failed : parse kind text = .error fault) : fault.PointsInto text := by
  unfold parse at failed
  split at failed
  · rename_i stop _
    cases failed
    exact stop.fault_points text
  · cases failed
    exact Fault.pointing_points text _
  · cases failed
  · split at failed
    · cases failed
    · split at failed
      · cases failed
      · cases failed
        exact Fault.pointing_points text _

namespace Selector

variable (selector : Selector kind)

theorem relocate_own (fault : Fault) (points : fault.PointsInto selector.text) :
    selector.relocate fault = fault.relocate selector.print (selector.name.text.length + 1) := by
  unfold relocate
  rcases fault.subject_of_points selector.text points with own | other
  · rw [if_pos own]
  · rw [if_neg (by rw [other]; nofun), fault.relocate_unsubject _ _ other]

theorem relocate_points (fault : Fault) (points : fault.PointsInto selector.text) :
    (selector.relocate fault).PointsInto selector.print := by
  rw [selector.relocate_own fault points]
  by_cases blank : selector.text = ""
  · cases fault with
    | invalidCharacter subject place character =>
        rw [blank] at points
        exact absurd points.2.1 (Nat.not_lt_zero place)
    | endOfText subject expected => rfl
    | _ => trivial
  · have moved := fault.relocate_points (selector.name.text ++ " ") selector.text points
    rw [String.length_append] at moved
    rw [print, if_neg blank]
    exact moved

theorem relocate_behind (fault : Fault) (points : fault.PointsInto selector.text) (subject : String)
    (place : Nat) (character : Char)
    (told : selector.relocate fault = .invalidCharacter subject place character) :
    selector.name.text.length < place := by
  rw [selector.relocate_own fault points] at told
  cases fault with
  | invalidCharacter subject place character =>
      cases told
      omega
  | _ => cases told

variable (lookup : Lookup) (call : Call kind σ τ)

theorem evaluate_failed
    (calls : ∀ name values state fault, ((call name values).perform state).1 = .error fault →
      fault.subject? = none)
    (state : σ) (fault : Fault)
    (failed : ((selector.evaluate lookup call).perform state).1 = .error fault) :
    ∃ inner, inner.PointsInto selector.text ∧ fault = selector.relocate inner := by
  have kept : Action.Keeps (fun _ => True) (fun fault _ => fault.PointsInto selector.text)
      (selector.arguments.run lookup call (Stop.fault selector.text)) := by
    refine Arguments.run_keeps _ _ lookup call _ ?_ ?_ selector.arguments ?_
    · intro name values state _
      refine ⟨fun _ _ => trivial, fun fault refused => ?_⟩
      exact fault.points_unsubject _ (calls name values state fault refused)
    · exact fun wanted state missing _ => trivial
    · exact fun stop _ state _ => stop.fault_points selector.text
  rw [evaluate, Action.perform_adapt] at failed
  cases result : ((selector.arguments.run lookup call (Stop.fault selector.text)).perform state).1 with
  | ok values =>
      rw [result] at failed
      cases failed
  | error inner =>
      rw [result] at failed
      cases failed
      exact ⟨inner, (kept state trivial).2 inner result, rfl⟩

end Selector

section Urls

variable [UrlLibrary]

theorem Info.parse_points (text : String) (fault : Fault) (failed : parse kind text = .error fault) :
    fault.PointsInto text := by
  unfold parse at failed
  split at failed
  · rename_i stop _
    cases failed
    exact stop.fault_points text
  · split at failed
    · cases failed
    · cases failed
      exact Fault.pointing_points text _

theorem Alias.parse_points (text : String) (fault : Fault) (failed : parse kind text = .error fault) :
    fault.PointsInto text := by
  unfold parse at failed
  split at failed
  · rename_i stop _
    cases failed
    exact stop.fault_points text
  · split at failed
    · cases failed
    · cases failed
      exact Fault.pointing_points text _

namespace InfoSet

theorem add_unsubject (set : InfoSet kind) (info : Info kind) (fault : Fault)
    (failed : set.add info = .error fault) : fault.subject? = none := by
  unfold add at failed
  split at failed
  · cases failed
    rfl
  · split at failed
    · cases failed
      rfl
    · cases failed

theorem parse_points (text : String) (fault : Fault) (failed : parse kind text = .error fault) :
    fault.PointsInto text := by
  rcases (bind_error_iff _ _ _).mp failed with unread | ⟨infos, _, refused⟩
  · exact listed_points _ _ text fault unread
  · obtain ⟨set, info, _, blamed⟩ := fold_failed add infos empty fault refused
    exact fault.points_unsubject text (add_unsubject set info fault blamed)

end InfoSet

namespace AliasTables

theorem add_unsubject (tables : AliasTables kind) (declaration : Alias kind) (fault : Fault)
    (failed : tables.add declaration = .error fault) : fault.subject? = none := by
  dsimp only [add] at failed
  split at failed
  · cases failed
    rfl
  · split at failed
    · cases failed
    · split at failed
      · cases failed
        rfl
      · cases failed
    · rcases (bind_error_iff _ _ _).mp failed with refused | ⟨published, _, done⟩
      · exact tables.published.add_unsubject _ fault refused
      · cases done

theorem assemble_unsubject (declarations : List (Alias kind)) (fault : Fault)
    (failed : assemble declarations = .error fault) : fault.subject? = none := by
  rcases (bind_error_iff _ _ _).mp failed with refused | ⟨tables, _, conflict⟩
  · obtain ⟨tables, declaration, _, blamed⟩ := fold_failed add declarations empty fault refused
    exact tables.add_unsubject declaration fault blamed
  · split at conflict
    · cases conflict
      rfl
    · cases conflict

end AliasTables

namespace AliasSet

theorem of_list_unsubject (declarations : List (Alias kind)) (fault : Fault)
    (failed : ofList declarations = .error fault) : fault.subject? = none := by
  unfold ofList at failed
  split at failed
  · cases failed
  · rename_i assembled
    cases failed
    exact AliasTables.assemble_unsubject declarations fault assembled

theorem parse_points (text : String) (fault : Fault) (failed : parse kind text = .error fault) :
    fault.PointsInto text := by
  rcases (bind_error_iff _ _ _).mp failed with unread | ⟨declarations, _, refused⟩
  · exact listed_points _ _ text fault unread
  · exact fault.points_unsubject text (of_list_unsubject declarations fault refused)

end AliasSet

theorem syntax_faults_point :
    (∀ text fault, Name.parse kind text = .error fault → fault.PointsInto text) ∧
    (∀ text fault, Info.parse kind text = .error fault → fault.PointsInto text) ∧
    (∀ text fault, InfoSet.parse kind text = .error fault → fault.PointsInto text) ∧
    (∀ text fault, Selector.parse kind text = .error fault → fault.PointsInto text) ∧
    (∀ text fault, Alias.parse kind text = .error fault → fault.PointsInto text) ∧
    (∀ text fault, AliasSet.parse kind text = .error fault → fault.PointsInto text) ∧
    ∀ (selector : Selector kind) (lookup : Lookup) (call : Call kind σ τ),
      (∀ name values state fault, ((call name values).perform state).1 = .error fault →
        fault.subject? = none) →
      ∀ state fault, ((selector.evaluate lookup call).perform state).1 = .error fault →
        fault.PointsInto selector.print ∧
        ∀ subject place character, fault = .invalidCharacter subject place character →
          selector.name.text.length < place := by
  refine ⟨Name.parse_points, Info.parse_points, InfoSet.parse_points, Selector.parse_points,
    Alias.parse_points, AliasSet.parse_points, ?_⟩
  intro selector lookup call calls state fault failed
  obtain ⟨inner, points, rfl⟩ := selector.evaluate_failed lookup call calls state fault failed
  exact ⟨selector.relocate_points inner points, selector.relocate_behind inner points⟩

end Urls

section Sample

attribute [local instance] UrlLibrary.sample

-- The list is closed before the last name, so the fault comes after both calls. Its place counts
-- characters and not the bytes that they take.
theorem syntax_fault_accented :
    let selector : Selector .plugin := ⟨⟨"a", by decide⟩, "(b, c(\"é\")) d"⟩
    let lookup : Lookup := fun _ => none
    let call : Call .plugin Nat Nat := fun _ _ count =>
      (if count < 2 then .ok count else .error (.provider "refused"), count + 1)
    let fault : Fault := .invalidCharacter "a (b, c(\"é\")) d" 14 'd'
    (selector.evaluate lookup call).perform 0 = (.error fault, 2) ∧
      (∀ name values state other, ((call name values).perform state).1 = .error other →
        other.subject? = none) ∧
      fault.PointsInto selector.print ∧ selector.name.text.length < 14 := by
  intro selector lookup call fault
  let group : Group .plugin :=
    .filled (.more .none (.word (.name ⟨"b", by decide⟩ (by decide))) .none
      (.last ⟨[' '], rfl⟩ (.call ⟨"c", by decide⟩ (by decide) .none
        (.filled (.last .none (.word (.text [.plain 'é' (by decide)])) .none))) .none))
  let stop : Stop := ⟨.unexpected, ['d']⟩
  have parsed : selector.arguments = group.arguments.breakOff stop := by
    obtain ⟨bound, read⟩ := group.read plugin_separable [' ', 'd']
    have opened : Text.skipBlanks selector.text.toList = '(' :: (group.inside ++ [' ', 'd']) := by
      decide
    rw [Selector.arguments, Arguments.ofText, opened]
    dsimp only
    rw [if_pos rfl, read]
    rfl
  have stopped : (selector.arguments.run lookup call (Stop.fault selector.text)).perform 0 =
      (.error (stop.fault selector.text), 2) := by
    rw [parsed]
    rfl
  have moved : selector.relocate (stop.fault selector.text) = fault := by decide
  have ran : (selector.evaluate lookup call).perform 0 = (.error fault, 2) := by
    rw [Selector.evaluate, Action.perform_adapt, stopped, ← moved]
    rfl
  have unsubject : ∀ name values state other,
      ((call name values).perform state).1 = .error other → other.subject? = none := by
    intro name values state other refused
    change (if state < 2 then Except.ok state else .error (.provider "refused")) = .error other
      at refused
    split at refused
    · cases refused
    · cases refused
      rfl
  obtain ⟨points, behind⟩ := syntax_faults_point.2.2.2.2.2.2 selector lookup call unsubject 0 fault
    (by rw [ran])
  exact ⟨ran, unsubject, points, behind _ _ _ rfl⟩

end Sample

end PluginNaming
