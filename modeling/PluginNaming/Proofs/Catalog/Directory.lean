import PluginNaming.Catalog.Directory
import PluginNaming.Proofs.Fold

set_option autoImplicit false

namespace PluginNaming

namespace Directory

variable (directory changed : Directory)

theorem enter_same (place : Place) (name : List Char) (own : Bool)
    (entered : directory.enter place name = .ok (.directory own)) :
    changed.enter place name = .ok (.directory own) := by
  cases place with
  | absent | file => cases entered
  | directory before =>
      unfold enter at entered ⊢
      dsimp only at entered ⊢
      split at entered
      · rw [if_pos (by assumption)]
        exact entered
      · rw [if_neg (by assumption)]
        split at entered
        · rw [if_pos (by assumption)]
          exact entered
        · split at entered
          · cases entered
          · split at entered
            · cases before <;> cases entered
            · cases entered

theorem way_same (names : List (List Char)) (place : Place) (own : Bool)
    (found : names.foldlM directory.enter place = .ok (.directory own)) :
    names.foldlM changed.enter place = .ok (.directory own) := by
  have from_directory (names : List (List Char)) (place : Place)
      (found : names.foldlM directory.enter place = .ok (.directory own)) :
      ∃ before, place = .directory before := by
    cases names with
    | nil =>
        cases found
        exact ⟨own, rfl⟩
    | cons name rest =>
        cases place with
        | directory before => exact ⟨before, rfl⟩
        | absent | file => cases found
  induction names generalizing place with
  | nil => exact found
  | cons name rest hypothesis =>
      rw [List.foldlM_cons, bind_ok_iff] at found ⊢
      obtain ⟨next, entered, found⟩ := found
      obtain ⟨before, rfl⟩ := from_directory rest next found
      exact ⟨_, directory.enter_same changed place name before entered, hypothesis _ found⟩

theorem read_own (path : String) (way : List (List Char)) (name : List Char) (content : ByteArray)
    (parts : names path.toList = way ++ [name])
    (own : way.foldlM directory.enter (start path.toList) = .ok (.directory true))
    (proper : [[], ['.'], ['.', '.']].contains name = false)
    (short : ¬ longestFileName < (String.ofList name).utf8ByteSize)
    (there : directory.lookup (String.ofList name) = some content) :
    directory.read path = .ok content := by
  have entered : directory.enter (.directory true) name = .ok (.file content) := by
    have apart : ¬ (name.isEmpty ∨ name = ['.']) ∧ name ≠ ['.', '.'] := by
      simpa [not_or, and_assoc] using proper
    unfold enter
    dsimp only
    rw [if_neg apart.1, if_neg apart.2, if_neg short, there]
    rfl
  have last : [name].foldlM directory.enter (.directory true) = .ok (.file content) := by
    rw [List.foldlM_cons, entered]
    rfl
  have whole : (names path.toList).foldlM directory.enter (start path.toList) = .ok (.file content) := by
    rw [parts, List.foldlM_append, own]
    exact last
  unfold read
  rw [whole]
  rfl

theorem read_written (path : String) (content : ByteArray)
    (written : directory.write path content = .ok changed) :
    changed.read path = .ok content ∨ changed = directory := by
  obtain ⟨place, found, written⟩ := (bind_ok_iff _ _ _).mp written
  split at written
  · cases written
  · cases written
  · rename_i own
    split at written
    · cases written
    · rename_i proper
      obtain ⟨bare, proper⟩ := not_or.mp proper
      rw [Decidable.not_not.mp bare] at found proper written
      split at written
      · cases written
      · rename_i short
        split at written
        · rename_i mine
          cases written
          refine .inl ?_
          have some : names path.toList ≠ [] := by
            intro empty
            rw [empty] at proper
            exact proper rfl
          have last : (names path.toList).getLastD [] = (names path.toList).getLast some := by
            rw [List.getLastD_eq_getLast?, List.getLast?_eq_some_getLast some, Option.getD_some]
          rw [last] at proper short ⊢
          refine read_own _ path (names path.toList).dropLast _ content
            (List.dropLast_concat_getLast some).symm ?_ (Bool.not_eq_true _ ▸ proper) short
            (List.lookup_cons_self ..)
          exact directory.way_same _ _ _ true (mine ▸ found)
        · cases written
          exact .inr rfl

end Directory

end PluginNaming
