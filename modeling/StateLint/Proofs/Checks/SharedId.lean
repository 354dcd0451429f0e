import StateLint.Proofs.Checks.DuplicateId

namespace StateLint.Checks

variable {states : List StateDefinition} {s : StateDefinition} {id : UInt32} {ids : List UInt32}

def joinGroup (s : StateDefinition) : List (UInt32 × List String) → List (UInt32 × List String)
  | [] => [(s.id, [s.location])]
  | g :: gs => if g.1 = s.id then (g.1, g.2 ++ [s.location]) :: gs else g :: joinGroup s gs

-- The groups that one pass through the states gathers, each as its id and the places of its states.
def groups (states : List StateDefinition) : List (UInt32 × List String) :=
  states.foldl (fun gs s => joinGroup s gs) []

theorem joinGroup_map {places : UInt32 → List String} (hn : ids.Nodup)
    (hp : s.id ∉ ids → places s.id = []) :
    joinGroup s (ids.map fun id => (id, places id)) =
      (if s.id ∈ ids then ids else ids ++ [s.id]).map
        fun id => (id, places id ++ if s.id = id then [s.location] else []) := by
  induction ids
  case nil => simp [joinGroup, hp]
  case cons i is hi =>
    have ⟨first, rest⟩ := List.nodup_cons.mp hn
    by_cases he : s.id = i
    case pos =>
      -- The group is found, and those behind it have other ids.
      have others : is.map (fun id => (id, places id)) =
          is.map fun id => (id, places id ++ if s.id = id then [s.location] else []) := by
        apply List.map_congr_left
        intro j hj
        have hj : s.id ≠ j := fun hs => first (he ▸ hs ▸ hj)
        simp [hj]
      simp [joinGroup, he, others]
    case neg =>
      have hi := hi rest fun hm => hp (by simp [he, hm])
      by_cases hm : s.id ∈ is <;> simp [joinGroup, he, Ne.symm he, hi, hm]

theorem locationsOf_append_singleton :
    locationsOf (states ++ [s]) id =
      locationsOf states id ++ if s.id = id then [s.location] else [] := by
  by_cases h : s.id = id <;> simp [locationsOf, h]

theorem locationsOf_eq_nil (h : id ∉ states.map (·.id)) : locationsOf states id = [] := by
  apply List.eq_nil_of_length_eq_zero
  by_contra hl
  exact h (mem_ids_of_locationsOf (Nat.pos_of_ne_zero hl))

theorem groups_eq (states : List StateDefinition) :
    groups states = (states.map (·.id)).eraseDups.map fun id => (id, locationsOf states id) := by
  induction states using List.reverseRecOn
  case nil => rfl
  case append_singleton states s hi =>
    have step : groups (states ++ [s]) = joinGroup s (groups states) := by simp [groups]
    have hp (h : s.id ∉ (states.map (·.id)).eraseDups) : locationsOf states s.id = [] :=
      locationsOf_eq_nil (mt List.mem_eraseDups.mpr h)
    simp only [step, hi, joinGroup_map (nodup_eraseDups _) hp, List.mem_eraseDups, List.map_append,
      List.map_singleton, eraseDups_append_singleton, locationsOf_append_singleton]

theorem duplicateIds_eq_groups :
    duplicateIds states = ((groups states).filter (·.2.length > 1)).map fun g =>
      duplicateId g.1 g.2 := by
  rw [groups_eq, duplicateIds]

theorem flatMap_filter_id_perm (hn : ids.Nodup) :
    (ids.flatMap fun id => states.filter (·.id = id)).Perm (states.filter (·.id ∈ ids)) := by
  induction ids
  case nil => simp
  case cons i is hi =>
    have ⟨first, rest⟩ := List.nodup_cons.mp hn
    have own : (states.filter (·.id ∈ i :: is)).filter (fun s => s.id = i) =
        states.filter (·.id = i) := by
      rw [List.filter_filter]
      apply List.filter_congr
      intro s _
      by_cases h : s.id = i <;> simp [h]
    have others : (states.filter (·.id ∈ i :: is)).filter (fun s => !decide (s.id = i)) =
        states.filter (·.id ∈ is) := by
      rw [List.filter_filter]
      apply List.filter_congr
      intro s _
      by_cases h : s.id = i <;> simp [h, first]
    have parts :=
      List.filter_append_perm (fun s => decide (s.id = i)) (states.filter (·.id ∈ i :: is))
    rw [own, others] at parts
    rw [List.flatMap_cons]
    exact ((hi rest).append_left _).trans parts

theorem pairwise_duplicatedIds :
    (duplicatedIds states).Pairwise fun i j => (states.map (·.id)).idxOf i <
      (states.map (·.id)).idxOf j :=
  (pairwise_eraseDups _).filter _

theorem mem_duplicatedIds_iff_count :
    id ∈ duplicatedIds states ↔ 2 ≤ (states.map (·.id)).count id := by
  rw [mem_duplicatedIds, length_locationsOf]
  exact Nat.succ_le_iff

-- There is one finding on each id that is declared at least twice, in the order of the first
-- declarations. It lists the places of all states of the id, in their order, and so each state that
-- shares its id is told of once, and no other is. The findings are those on the groups of several
-- states that one pass gathers.
theorem duplicateFindings_partition (settings : Settings) (sources : Sources)
    (states : List StateDefinition) :
    ∃ ids : List UInt32,
      (∀ id, id ∈ ids ↔ 2 ≤ (states.map (·.id)).count id) ∧
      ids.Pairwise (fun i j => (states.map (·.id)).idxOf i < (states.map (·.id)).idxOf j) ∧
      (battery settings sources states).filter (·.code = "STATE001") = ids.map (fun id =>
        let locations := (states.filter (·.id = id)).map (·.location)
        let quoted := " and ".intercalate (locations.map fun l => s!"`{l}`")
        { severity := .error
          code := "STATE001"
          location := ", ".intercalate locations
          message := s!"Duplicate state ID {id} declared in: {quoted}"
          hint := some "Each state must have a unique numeric ID." }) ∧
      (ids.flatMap fun id => states.filter (·.id = id)).Perm
        (states.filter fun s => 2 ≤ (states.map (·.id)).count s.id) ∧
      (battery settings sources states).filter (·.code = "STATE001") =
        ((groups states).filter (·.2.length > 1)).map fun g => duplicateId g.1 g.2 := by
  have found : (battery settings sources states).filter (·.code = "STATE001") =
      duplicateIds states :=
    filter_battery .duplicateId
  refine ⟨duplicatedIds states, fun _ => mem_duplicatedIds_iff_count,
    pairwise_duplicatedIds, ?_, ?_, ?_⟩
  · rw [found, duplicateIds_eq]
    rfl
  · simp only [← mem_duplicatedIds_iff_count]
    exact flatMap_filter_id_perm nodup_duplicatedIds
  · rw [found, duplicateIds_eq_groups]

end StateLint.Checks
