import Mathlib.Data.List.Induction
import Mathlib.Data.List.Nodup
import Mathlib.Data.List.Sort
import StateLint.State.Transitions

namespace StateLint.Transitions

theorem find?_eq_some_of_ascending {es : List (String × UInt32)}
    (h : es.Pairwise fun e f => e.1 < f.1) {e} (he : e ∈ es) : es.find? (·.1 = e.1) = some e := by
  induction es
  case nil => contradiction
  case cons f fs hi =>
    have ⟨hf, hs⟩ := List.pairwise_cons.mp h
    cases List.mem_cons.mp he
    case inl he => simp [he]
    case inr he =>
      have hn : f.1 ≠ e.1 := fun hn => String.lt_irrefl _ (hn ▸ hf e he)
      rw [List.find?_cons_of_neg (by simpa using hn)]
      exact hi hs he

theorem mem_toList {t : Transitions} {label : String} {target : UInt32} :
    (label, target) ∈ t.toList ↔ t.get? label = some target := by
  constructor
  case mp =>
    intro h
    simp [get?, find?_eq_some_of_ascending t.ascending h]
  case mpr =>
    intro h
    obtain ⟨e, he, ht⟩ := Option.map_eq_some_iff.mp h
    have hl := List.find?_some he
    have hm := List.mem_of_find?_eq_some he
    simp only [decide_eq_true_eq] at hl
    exact hl ▸ ht ▸ hm

theorem mem_targets {t : Transitions} {target : UInt32} :
    target ∈ t.targets ↔ ∃ label, t.get? label = some target := by
  simp [targets, ← mem_toList]

theorem get?_ofList (es : List (String × UInt32)) (label : String) :
    (ofList es).get? label = (es.reverse.find? (·.1 = label)).map (·.2) := by
  induction es using List.reverseRecOn
  case nil => rfl
  case append_singleton es e hi =>
    have ha : ofList (es ++ [e]) = (ofList es).insert e.1 e.2 := by simp [ofList]
    rw [ha, get?_insert, hi, List.reverse_append, List.reverse_singleton, List.singleton_append,
      List.find?_cons]
    split <;> simp_all

theorem get?_ofList_of_nodup {es : List (String × UInt32)} (h : (es.map (·.1)).Nodup)
    {label : String} {target : UInt32} :
    (ofList es).get? label = some target ↔ (label, target) ∈ es := by
  rw [get?_ofList, Option.map_eq_some_iff]
  constructor
  case mp =>
    intro ⟨e, he, ht⟩
    have hl : e.1 = label := by simpa using List.find?_some he
    have hm := List.mem_reverse.mp (List.mem_of_find?_eq_some he)
    exact hl ▸ ht ▸ hm
  case mpr =>
    intro hm
    cases hf : es.reverse.find? (·.1 = label)
    case none => exact absurd (List.find?_eq_none.mp hf _ (List.mem_reverse.mpr hm)) (by simp)
    case some e =>
      have hl : e.1 = label := by simpa using List.find?_some hf
      have he := List.mem_reverse.mp (List.mem_of_find?_eq_some hf)
      rw [List.inj_on_of_nodup_map h he hm hl]
      exact ⟨_, rfl, rfl⟩

variable {t u : Transitions} {f : String → String}

theorem nodup_labels (t : Transitions) : (t.toList.map (·.1)).Nodup :=
  List.pairwise_map.mpr (t.ascending.imp fun h => String.ne_of_lt h)

theorem nodup_toList (t : Transitions) : t.toList.Nodup :=
  .of_map _ t.nodup_labels

theorem ext_get? (h : ∀ label, t.get? label = u.get? label) : t = u := by
  have hp : t.toList.Perm u.toList :=
    (List.perm_ext_iff_of_nodup t.nodup_toList u.nodup_toList).mpr fun ⟨label, target⟩ => by
    rw [mem_toList, mem_toList, h]
  have he :=
    hp.eq_of_pairwise (fun _ _ _ _ h hg => absurd (String.lt_trans h hg) (String.lt_irrefl _))
    t.ascending u.ascending
  cases t
  cases u
  simpa using he

theorem toList_ofList_perm {es : List (String × UInt32)} (h : (es.map (·.1)).Nodup) :
    (ofList es).toList.Perm es :=
  (List.perm_ext_iff_of_nodup (nodup_toList _) (.of_map _ h)).mpr fun ⟨label, target⟩ => by
    rw [mem_toList, get?_ofList_of_nodup h]

theorem ofList_toList (t : Transitions) : ofList t.toList = t := by
  refine ext_get? fun label => Option.ext fun target => ?_
  rw [← mem_toList, ← mem_toList, (toList_ofList_perm t.nodup_labels).mem_iff]

def relabel (f : String → String) (t : Transitions) : Transitions :=
  .ofList (t.toList.map fun e => (f e.1, e.2))

theorem toList_relabel_perm (hf : Function.Injective f) (t : Transitions) :
    (t.relabel f).toList.Perm (t.toList.map fun e => (f e.1, e.2)) := by
  refine toList_ofList_perm ?_
  have hl := t.nodup_labels.map hf
  rwa [List.map_map] at hl ⊢

theorem get?_ofList_map (hf : Function.Injective f) (es : List (String × UInt32)) (label : String) :
    (ofList (es.map fun e => (f e.1, e.2))).get? (f label) = (ofList es).get? label := by
  simp only [get?_ofList, ← List.map_reverse, List.find?_map, Function.comp_def, hf.eq_iff,
    Option.map_map]

theorem get?_ofList_map_eq_none {label : String} (h : ∀ l, f l ≠ label)
    (es : List (String × UInt32)) :
    (ofList (es.map fun e => (f e.1, e.2))).get? label = none := by
  rw [get?_ofList, ← List.map_reverse, List.find?_eq_none.mpr, Option.map_none]
  intro e he
  have ⟨d, _, hd⟩ := List.mem_map.mp he
  simpa [← hd] using h d.1

theorem ofList_map (hf : Function.Injective f) (es : List (String × UInt32)) :
    ofList (es.map fun e => (f e.1, e.2)) = (ofList es).relabel f := by
  refine ext_get? fun label => ?_
  by_cases h : ∃ l, f l = label
  case pos =>
    obtain ⟨l, rfl⟩ := h
    rw [relabel, get?_ofList_map hf, get?_ofList_map hf, ofList_toList]
  case neg =>
    have h : ∀ l, f l ≠ label := fun l hl => h ⟨l, hl⟩
    rw [relabel, get?_ofList_map_eq_none h, get?_ofList_map_eq_none h]

theorem relabel_of_fixed {t : Transitions} (h : ∀ e ∈ t.toList, f e.1 = e.1) : t.relabel f = t := by
  have hm : (t.toList.map fun e => (f e.1, e.2)) = t.toList :=
    (List.map_congr_left fun e he => by rw [h e he, id]).trans (List.map_id _)
  rw [relabel, hm, ofList_toList]

end StateLint.Transitions
