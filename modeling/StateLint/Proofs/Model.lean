import Mathlib.Data.List.Nodup
import StateLint.Model

namespace StateLint

variable {sources : Sources} {s : StateDefinition} {f : SourceFile}

theorem isStateClass_iff : s.isStateClass ↔ s.layout = .stateClass := by
  simp [StateDefinition.isStateClass]

theorem not_isStateClass_iff : ¬s.isStateClass ↔ s.layout = .stateArray := by
  rw [isStateClass_iff]
  cases s.layout <;> simp

theorem Sources.stateClass?_of_mem (hd : (sources.stateClasses.map (·.path)).Nodup)
    (hf : f ∈ sources.stateClasses) :
    sources.stateClass? f.path = some f := by
  cases hg : sources.stateClass? f.path
  case none => exact absurd (List.find?_eq_none.mp hg f hf) (by simp)
  case some g =>
    have hp : g.path = f.path := by simpa using List.find?_some hg
    rw [List.inj_on_of_nodup_map hd (List.mem_of_find?_eq_some hg) hf hp]

theorem StateArray.layout_of_mem {text location : String} (h : s ∈ states text location) :
    s.layout = .stateArray := by
  have ⟨b, _, hb⟩ := List.mem_filterMap.mp h
  simp only [Block.definition?, Option.bind_eq_bind, Option.bind_eq_some_iff, Option.pure_def,
    Option.some.injEq] at hb
  have ⟨_, _, _, _, hs⟩ := hb
  rw [← hs]

theorem StateClass.state?_eq_some {text location : String} (h : state? text location = some s) :
    s.layout = .stateClass ∧ s.location = location ∧ s.className = some s.name ∧
      s.actions = actions text.toList := by
  simp only [state?, Option.bind_eq_bind, Option.bind_eq_some_iff, Option.pure_def,
    Option.some.injEq] at h
  have ⟨_, _, _, _, _, _, _, _, hs⟩ := h
  simp [← hs]

namespace Model

theorem mem_states :
    s ∈ (ofSources sources).states ↔
      (∃ f, sources.stateArray = some f ∧ s ∈ StateArray.states f.text f.path) ∨
        ∃ f ∈ sources.stateClasses, classState? f = some s := by
  simp [ofSources]

theorem mem_states_of_class (hf : f ∈ sources.stateClasses) (hs : classState? f = some s) :
    s ∈ (ofSources sources).states :=
  mem_states.mpr (.inr ⟨f, hf, hs⟩)

theorem states_ne_nil (hf : f ∈ sources.stateClasses) (hs : classState? f = some s) :
    (ofSources sources).states ≠ [] :=
  List.ne_nil_of_mem (mem_states_of_class hf hs)

theorem mem_states_of_stateClass (hl : s.layout = .stateClass) :
    s ∈ (ofSources sources).states ↔ ∃ f ∈ sources.stateClasses, classState? f = some s := by
  rw [mem_states]
  refine ⟨fun h => h.resolve_left ?_, .inr⟩
  intro ⟨f, _, hs⟩
  simp [StateArray.layout_of_mem hs] at hl

theorem className_of_mem (h : s ∈ (ofSources sources).states) (hl : s.layout = .stateClass) :
    s.className = some s.name := by
  have ⟨f, _, hs⟩ := (mem_states_of_stateClass hl).mp h
  exact (StateClass.state?_eq_some hs).right.right.left

theorem eq_of_location (hd : (sources.stateClasses.map (·.path)).Nodup)
    (hf : f ∈ sources.stateClasses) (hs : classState? f = some s) {t : StateDefinition}
    (ht : t ∈ (ofSources sources).states) (hl : t.layout = .stateClass)
    (h : t.location = s.location) : t = s := by
  have ⟨g, hg, hgt⟩ := (mem_states_of_stateClass hl).mp ht
  have hp : g.path = f.path := by
    rw [← (StateClass.state?_eq_some hgt).right.left, h, (StateClass.state?_eq_some hs).right.left]
  rw [List.inj_on_of_nodup_map hd hg hf hp, hs] at hgt
  exact (Option.some.inj hgt).symm

theorem severity_of_mem_notes {d : Diagnostic} (h : d ∈ (ofSources sources).notes) :
    d.severity = .info := by
  have ⟨_, _, hd⟩ := List.mem_map.mp h
  exact hd ▸ rfl

end Model
end StateLint
