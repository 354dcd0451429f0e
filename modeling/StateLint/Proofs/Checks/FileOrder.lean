import StateLint.Proofs.Checks.CrossReference
import StateLint.Proofs.Checks.DuplicateId
import StateLint.Proofs.Model

namespace StateLint

-- Two games that differ at most in the order of their state classes and of the server's other
-- scripts.
structure Sources.Reordered (s t : Sources) : Prop where
  stateClasses   : s.stateClasses.Perm t.stateClasses
  serverScripts  : s.serverScripts.Perm t.serverScripts
  stateArray     : s.stateArray = t.stateArray
  classDirectory : s.classDirectory = t.classDirectory
  clientScript   : s.clientScript = t.clientScript
  mainScript     : s.mainScript = t.mainScript
  unreadable     : s.unreadable = t.unreadable

namespace Sources.Reordered

variable {s t : Sources} (h : s.Reordered t)
include h

theorem serverFiles : s.serverFiles.Perm t.serverFiles := by
  simp only [Sources.serverFiles, h.stateArray, h.mainScript]
  exact (h.serverScripts.append_left _).append h.stateClasses

theorem states : (Model.ofSources s).states.Perm (Model.ofSources t).states := by
  simp only [Model.ofSources, h.stateArray]
  exact (h.stateClasses.filterMap _).append_left _

theorem notes : (Model.ofSources s).notes.Perm (Model.ofSources t).notes :=
  (h.stateClasses.filter _).map _

theorem stateClass?_eq (hd : (s.stateClasses.map (·.path)).Nodup) (path : String) :
    s.stateClass? path = t.stateClass? path := by
  have ht := (h.stateClasses.map (·.path)).nodup_iff.mp hd
  cases hf : t.stateClass? path
  case some f =>
    have hp : f.path = path := by simpa using List.find?_some hf
    rw [← hp]
    exact Sources.stateClass?_of_mem hd (h.stateClasses.mem_iff.mpr (List.mem_of_find?_eq_some hf))
  case none =>
    apply List.find?_eq_none.mpr
    intro f hm
    exact List.find?_eq_none.mp hf f (h.stateClasses.mem_iff.mp hm)

end Sources.Reordered

namespace Checks

variable {settings : Settings} {s t : Sources} {states states' : List StateDefinition}
  {client : SourceFile}

section

variable (hs : states.Perm states')
include hs

theorem locationsOf_perm (id : UInt32) : (locationsOf states id).Perm (locationsOf states' id) :=
  (hs.filter _).map _

theorem duplicatedIds_perm : (duplicatedIds states).Perm (duplicatedIds states') := by
  have hp : ∀ id, decide (1 < (locationsOf states id).length) =
      decide (1 < (locationsOf states' id).length) := by
    intro id
    rw [(locationsOf_perm hs id).length_eq]
  simp only [duplicatedIds, hp]
  apply List.Perm.filter
  apply perm_eraseDups
  exact fun _ => (hs.map _).mem_iff

theorem declaredIds_perm : (declaredIds settings states).Perm (declaredIds settings states') :=
  (hs.map _).append_right _

theorem targetIds_perm : (targetIds states).Perm (targetIds states') :=
  hs.flatMap_right _

theorem brokenTransitions_perm :
    (brokenTransitions settings states).Perm (brokenTransitions settings states') := by
  simp only [brokenTransitions, (declaredIds_perm hs).mem_iff]
  exact hs.flatMap_right _

theorem unreachableStates_perm :
    (unreachableStates settings states).Perm (unreachableStates settings states') := by
  simp only [unreachableStates, (targetIds_perm hs).mem_iff]
  exact (hs.filter _).map _

theorem missingZombies_perm : (missingZombies states).Perm (missingZombies states') :=
  (hs.filter _).map _

theorem classNameMismatches_perm :
    (classNameMismatches states).Perm (classNameMismatches states') :=
  (hs.filter _).flatMap_right _

theorem reservedNames_perm :
    (reservedNames settings states).Perm (reservedNames settings states') :=
  (hs.filter _).flatMap_right _

variable (h : s.Reordered t)
include h

theorem handled_iff {normal : String} : Handled s states normal ↔ Handled t states' normal := by
  simp only [Handled, hs.mem_iff, h.mainScript]

theorem knownActions_perm : (knownActions s states).Perm (knownActions t states') := by
  simp only [knownActions, h.mainScript]
  apply perm_eraseDups
  exact fun _ => ((hs.flatMap_right _).append_right _).mem_iff

theorem unknownNames_eq : unknownNames s states client = unknownNames t states' client := by
  simp only [unknownNames, handled_iff hs h]

theorem uncalledNames_perm :
    (uncalledNames s states client).Perm (uncalledNames t states' client) := by
  unfold uncalledNames
  split
  case isTrue => exact .nil
  case isFalse => exact (knownActions_perm hs h).filter _

theorem actionFindings_perm : (actionFindings s states).Perm (actionFindings t states') := by
  cases hc : s.clientScript
  case none => simp [actionFindings, hc, ← h.clientScript]
  case some client =>
    rw [actionFindings_eq hc, actionFindings_eq (h.clientScript ▸ hc), unknownNames_eq hs h]
    exact ((uncalledNames_perm hs h).map _).append_left _

theorem missingMethods_perm (hd : (s.stateClasses.map (·.path)).Nodup) :
    (missingMethods s states).Perm (missingMethods t states') := by
  simp only [missingMethods, h.stateClass?_eq hd]
  exact (hs.filter _).flatMap_right _

end

section

variable (h : s.Reordered t)
include h

theorem sentNotifications_perm : (sentNotifications s).Perm (sentNotifications t) := by
  apply perm_eraseDups
  exact fun _ => (h.serverFiles.flatMap_right _).mem_iff

theorem notificationFindings_perm :
    (notificationFindings settings s).Perm (notificationFindings settings t) := by
  simp only [notificationFindings, h.clientScript, (sentNotifications_perm h).mem_iff]
  cases t.clientScript
  case none => exact .nil
  case some client =>
    simp only [Option.toList_some, List.flatMap_singleton]
    exact (((sentNotifications_perm h).filter _).map _).append_right _

theorem missingImports_perm : (missingImports s).Perm (missingImports t) :=
  (h.stateClasses.filter _).map _

theorem progressionFindings_eq : progressionFindings s = progressionFindings t := by
  simp only [progressionFindings, h.mainScript]

end

def otherFindings (settings : Settings) (sources : Sources) (states : List StateDefinition) :
    List Diagnostic :=
  brokenTransitions settings states ++
    (unreachableStates settings states ++
    (missingZombies states ++
    (classNameMismatches states ++
    (reservedNames settings states ++ (actionFindings sources states ++
      (notificationFindings settings sources ++
        (progressionFindings sources ++
        (missingImports sources ++ missingMethods sources states))))))))

theorem battery_eq :
    battery settings s states = duplicateIds states ++ otherFindings settings s states := by
  simp only [battery, otherFindings, List.append_assoc]

theorem otherFindings_perm (hs : states.Perm states') (h : s.Reordered t)
    (hd : (s.stateClasses.map (·.path)).Nodup) :
    (otherFindings settings s states).Perm (otherFindings settings t states') := by
  apply (brokenTransitions_perm hs).append
  apply (unreachableStates_perm hs).append
  apply (missingZombies_perm hs).append
  apply (classNameMismatches_perm hs).append
  apply (reservedNames_perm hs).append
  apply (actionFindings_perm hs h).append
  apply (notificationFindings_perm h).append
  apply (List.Perm.of_eq (progressionFindings_eq h)).append
  apply (missingImports_perm h).append
  exact missingMethods_perm hs h hd

end Checks
end StateLint
