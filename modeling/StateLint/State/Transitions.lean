namespace StateLint

structure Transitions where
  toList : List (String × UInt32)
  ascending : toList.Pairwise fun e f => e.1 < f.1
  deriving DecidableEq, Repr

namespace Transitions

def put (label : String) (target : UInt32) : List (String × UInt32) → List (String × UInt32)
  | [] => [(label, target)]
  | e :: es =>
    if label < e.1 then (label, target) :: e :: es
    else if label = e.1 then (label, target) :: es
    else e :: put label target es

theorem mem_put {label target e} {es : List (String × UInt32)} (h : e ∈ put label target es) :
    e = (label, target) ∨ e ∈ es := by
  induction es with
  | nil => simpa [put] using h
  | cons f fs ih =>
    simp only [put] at h
    split at h
    · simpa using h
    · split at h
      · grind
      · grind

theorem put_ascending {label target} {es : List (String × UInt32)}
    (h : es.Pairwise fun e f => e.1 < f.1) :
    (put label target es).Pairwise fun e f => e.1 < f.1 := by
  induction es with
  | nil => simp [put]
  | cons f fs ih =>
    obtain ⟨hf, hs⟩ := List.pairwise_cons.mp h
    simp only [put]
    split
    case isTrue hl =>
      refine .cons (fun e hm => ?_) h
      rcases List.mem_cons.mp hm with rfl | hm
      · exact hl
      · exact String.lt_trans hl (hf e hm)
    case isFalse hl =>
      split
      case isTrue he => exact .cons (fun e hm => he ▸ hf e hm) hs
      case isFalse he =>
        refine .cons (fun e hm => ?_) (ih hs)
        rcases mem_put hm with rfl | hm
        · exact Decidable.byContradiction fun hn =>
            he (String.le_antisymm (String.not_lt.mp hn) (String.not_lt.mp hl))
        · exact hf e hm

def empty : Transitions := ⟨[], .nil⟩

def insert (t : Transitions) (label : String) (target : UInt32) : Transitions :=
  ⟨put label target t.toList, put_ascending t.ascending⟩

-- The transitions of a list. Of several with the same label the last one counts.
def ofList (es : List (String × UInt32)) : Transitions :=
  es.foldl (fun t e => t.insert e.1 e.2) empty

def get? (t : Transitions) (label : String) : Option UInt32 :=
  (t.toList.find? (·.1 = label)).map (·.2)

def targets (t : Transitions) : List UInt32 :=
  t.toList.map (·.2)

theorem find?_put {es : List (String × UInt32)} {label target l} :
    (put label target es).find? (·.1 = l) = if label = l then some (label, target)
      else es.find? (·.1 = l) := by
  induction es with
  | nil => grind [put]
  | cons f fs ih => grind [put]

theorem get?_insert {t : Transitions} {label target l} :
    (t.insert label target).get? l = if label = l then some target else t.get? l := by
  simp only [get?, insert, find?_put]
  split <;> simp

end Transitions
end StateLint
