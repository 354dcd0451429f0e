import StateLint.Proofs.Checks.Rule
import StateLint.Proofs.FirstOccurrence
import StateLint.Proofs.Text.Numeral

namespace StateLint.Checks

open Text

variable {states : List StateDefinition} {id : UInt32} {d : Diagnostic}

-- The finding is on an id that is declared more than once: its message begins with the id.
def ReportsDuplicate (id : UInt32) (d : Diagnostic) : Prop :=
  d.code = Rule.duplicateId.code ∧
    s!"Duplicate state ID {id} declared in: ".toList <+: d.message.toList

instance : Decidable (ReportsDuplicate id d) :=
  inferInstanceAs (Decidable (_ ∧ _))

def duplicatedIds (states : List StateDefinition) : List UInt32 :=
  (states.map (·.id)).eraseDups.filter fun id => 1 < (locationsOf states id).length

theorem nodup_duplicatedIds : (duplicatedIds states).Nodup :=
  (nodup_eraseDups _).filter _

theorem mem_duplicatedIds : id ∈ duplicatedIds states ↔ 1 < (locationsOf states id).length := by
  simp only [duplicatedIds, List.mem_filter, List.mem_eraseDups, decide_eq_true_eq,
    and_iff_right_iff_imp]
  exact fun h => mem_ids_of_locationsOf (Nat.zero_lt_of_lt h)

theorem duplicateIds_eq :
    duplicateIds states = (duplicatedIds states).map fun id =>
      duplicateId id (locationsOf states id) := by
  simp [duplicateIds, duplicatedIds, List.filter_map, Function.comp_def]

theorem follows_of_mem_duplicateIds (h : d ∈ duplicateIds states) : d.Follows .duplicateId := by
  have ⟨_, _, hd⟩ := mem_duplicateIds.mp h
  exact hd ▸ ⟨rfl, rfl⟩

theorem reportsDuplicate_duplicateId {i : UInt32} {locations : List String} :
    ReportsDuplicate id (duplicateId i locations) ↔ i = id := by
  constructor
  case mp =>
    intro ⟨_, t, ht⟩
    simp only [duplicateId, Rule.finding, toString, String.toList_append, List.append_assoc,
      List.append_cancel_left_eq] at ht
    -- The id ends at the blank behind it.
    have hb (u : List Char) : ∀ c ∈ (" declared in: ".toList ++ u).head?, isDigit c = false := by
      intro c hc
      cases hc
      rfl
    have hn := congrArg (List.takeWhile isDigit) ht
    exact numeral_inj ((Reader.takeWhile_stop (isDigit_numeral i) (hb _)).symm.trans
      (hn.symm.trans (Reader.takeWhile_stop (isDigit_numeral id) (hb _))))
  case mpr =>
    rintro rfl
    refine ⟨rfl, ?_⟩
    simp only [duplicateId, Rule.finding, toString, String.toList_append]
    exact List.prefix_append _ _

theorem filter_duplicateIds (states : List StateDefinition) (id : UInt32) :
    (duplicateIds states).filter (ReportsDuplicate id) =
      if 1 < (locationsOf states id).length then [duplicateId id (locationsOf states id)]
        else [] := by
  have hf : (duplicateIds states).filter (ReportsDuplicate id) =
      ((duplicatedIds states).filter (· = id)).map fun i =>
        duplicateId i (locationsOf states i) := by
    simp only [duplicateIds_eq, List.filter_map, Function.comp_def, reportsDuplicate_duplicateId]
  rw [hf, List.filter_eq, nodup_duplicatedIds.count]
  by_cases h : 1 < (locationsOf states id).length
  case pos => simp [h, mem_duplicatedIds]
  case neg => simp [h, mem_duplicatedIds]

end StateLint.Checks
