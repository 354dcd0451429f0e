import Mathlib.Data.List.Nodup
import StateLint.FileSystem.Snapshot

namespace StateLint

structure ProperName (name : String) : Prop where
  noSlash  : '/' ∉ name.toList
  ne_empty : name ≠ ""
  ne_here  : name ≠ "."
  ne_above : name ≠ ".."

theorem properName_iff {name : String} :
    ProperName name ↔ '/' ∉ name.toList ∧ name ≠ "" ∧ name ≠ "." ∧ name ≠ ".." :=
  ⟨fun ⟨hs, he, hh, ha⟩ => ⟨hs, he, hh, ha⟩, fun ⟨hs, he, hh, ha⟩ => ⟨hs, he, hh, ha⟩⟩

namespace FileTree

variable {root t : FileTree} {entries : List (EntryName × FileTree)} {name : String}

-- A tree in which no directory has a name twice, and every name that is a text stands for its entry
-- in a path.
inductive WellFormed : FileTree → Prop
  | file (content : List UInt8) : (file content).WellFormed
  | link (target : String) : (link target).WellFormed
  | directory {entries : List (EntryName × FileTree)} (hd : (entries.map (·.1)).Nodup)
      (hs : ∀ e ∈ entries, ∀ name ∈ e.1.text?, ProperName name) (he : ∀ e ∈ entries,
        e.2.WellFormed) :
      (directory entries).WellFormed

theorem WellFormed.child (h : root.WellFormed) (hc : root.child? name = some t) : t.WellFormed := by
  cases h
  case file | link => simp [child?] at hc
  case directory he =>
    obtain ⟨e, hf, ht⟩ := Option.map_eq_some_iff.mp hc
    exact ht ▸ he e (List.mem_of_find?_eq_some hf)

theorem WellFormed.headD (h : root.WellFormed) {place : List FileTree}
    (hp : ∀ u ∈ place, u.WellFormed) :
    (place.headD root).WellFormed := by
  cases place
  case nil => exact h
  case cons u _ => exact hp u List.mem_cons_self

theorem WellFormed.follow (h : root.WellFormed) {links : Nat} {place : List FileTree}
    {parts : List (List Char)} (hp : ∀ u ∈ place, u.WellFormed)
    (ht : root.follow links place parts = .ok t) : t.WellFormed := by
  fun_induction root.follow links place parts
  case case1 => exact Except.ok.inj ht ▸ h.headD hp
  case case2 hi => exact hi hp ht
  case case3 hi => exact hi (fun u hu => hp u (List.mem_of_mem_drop hu)) ht
  case case7 hi =>
    refine hi (fun u hu => ?_) ht
    split at hu
    case isTrue => exact absurd hu List.not_mem_nil
    case isFalse => exact hp u hu
  case case8 hd _ _ _ _ _ _ hc hi =>
    have hw := (hd ▸ h.headD hp).child hc
    exact hi (List.forall_mem_cons.mpr ⟨hw, hp⟩) ht
  all_goals cases ht

theorem WellFormed.ancestors (h : root.WellFormed) (names : List String) :
    ∀ t ∈ root.ancestors names, t.WellFormed := by
  induction names generalizing root
  case nil => simp [FileTree.ancestors]
  case cons name rest hi =>
    simp only [FileTree.ancestors]
    split
    case h_1 t ht =>
      have hw := h.child ht
      simpa [or_imp, forall_and] using ⟨hi hw, hw⟩
    case h_2 => simp

-- A path can be resolved if it is one, is not too long and can be followed.
theorem resolve_eq_ok {working : List FileTree} {path : String} :
    root.resolve working path = .ok t ↔
      '\x00' ∉ path.toList ∧ path ≠ "" ∧ path.utf8ByteSize < 4096 ∧
        root.follow 40 (if Path.isAbsolute path then [] else working) (Path.parts path.toList) =
          .ok t := by
  have hno (e : FileError) : ¬(throw e : Except FileError FileTree) = .ok t := nofun
  unfold resolve
  split
  case isTrue hz => exact iff_of_false (hno _) fun h => h.1 (by simpa using hz)
  case isFalse hz =>
    split
    case isTrue he => exact iff_of_false (hno _) fun h => h.2.1 (by simpa using he)
    case isFalse he =>
      split
      case isTrue hl => exact iff_of_false (hno _) fun h => absurd h.2.2.1 (by omega)
      case isFalse hl =>
        have hz : '\x00' ∉ path.toList := by simpa using hz
        have he : path ≠ "" := by simpa using he
        simp [hz, he, Nat.lt_of_not_le hl]

theorem WellFormed.entry (h : root.WellFormed) {working : List String} {path : String}
    (ht : fileSystem.entry root working path = .ok t) : t.WellFormed := by
  refine h.follow (fun u hu => ?_) (resolve_eq_ok.mp ht).2.2.2
  split at hu
  case isTrue => exact absurd hu List.not_mem_nil
  case isFalse => exact h.ancestors working u hu

theorem map_putEntry {name : EntryName} : (putEntry name t entries).map (·.1) =
    if name ∈ entries.map (·.1) then entries.map (·.1) else entries.map (·.1) ++ [name] := by
  induction entries
  case nil => rfl
  case cons e es hi =>
    by_cases h : e.1 = name
    case pos => simp [putEntry, h]
    case neg =>
      simp only [putEntry, h, if_false, List.map_cons, List.mem_cons, Ne.symm h, false_or, hi]
      split <;> simp

theorem mem_of_mem_putEntry {name : EntryName} {e : EntryName × FileTree}
    (h : e ∈ putEntry name t entries) :
    e = (name, t) ∨ e ∈ entries := by
  induction entries
  case nil => simpa [putEntry] using h
  case cons f fs hi =>
    simp only [putEntry] at h
    split at h
    case isTrue => exact (List.mem_cons.mp h).imp_right (List.mem_cons_of_mem f)
    case isFalse =>
      rcases List.mem_cons.mp h with rfl | h
      case inl => exact .inr List.mem_cons_self
      case inr => exact (hi h).imp_right (List.mem_cons_of_mem f)

theorem WellFormed.withEntry (h : root.WellFormed) (hn : ProperName name) (ht : t.WellFormed) :
    (root.withEntry name t).WellFormed := by
  cases h
  case file | link =>
    exact .directory (List.nodup_singleton _) (by simpa [EntryName.text?] using hn)
      (by simpa using ht)
  case directory entries hd hs he =>
    refine .directory ?nodup ?proper ?trees
    case nodup =>
      rw [map_putEntry]
      split
      case isTrue => exact hd
      case isFalse hm => exact hd.append (List.nodup_singleton _) (by simpa using hm)
    case proper =>
      intro e hm
      cases mem_of_mem_putEntry hm
      case inl he => simpa [he, EntryName.text?] using hn
      case inr hm => exact hs e hm
    case trees =>
      intro e hm
      cases mem_of_mem_putEntry hm
      case inl he => exact he ▸ ht
      case inr hm => exact he e hm

theorem wellFormed_empty : empty.WellFormed :=
  .directory .nil (by simp) (by simp)

theorem WellFormed.alter {change : Option FileTree → FileTree} (h : root.WellFormed)
    {names : List String} (hn : ∀ name ∈ names, ProperName name)
    (hc : ∀ old, (∀ t ∈ old, t.WellFormed) → (change old).WellFormed) :
    (root.alter names change).WellFormed := by
  have hchild (name : String) : ∀ t ∈ root.child? name, t.WellFormed := fun t ht => h.child ht
  induction names generalizing root
  case nil => exact hc _ (by simpa using h)
  case cons name rest hi =>
    have ⟨hs, hr⟩ := List.forall_mem_cons.mp hn
    cases rest
    case nil => exact h.withEntry hs (hc _ (hchild name))
    case cons =>
      have hw : ((root.child? name).getD empty).WellFormed := by
        cases ht : root.child? name
        case none => exact wellFormed_empty
        case some => exact hchild name _ ht
      exact h.withEntry hs (hi hw hr fun other _ => hw.child)

theorem WellFormed.put (h : root.WellFormed) {names : List String}
    (hn : ∀ name ∈ names, ProperName name) (ht : t.WellFormed) : (root.put names t).WellFormed :=
  h.alter hn fun _ _ => ht

theorem WellFormed.makeDirectory (h : root.WellFormed) {names : List String}
    (hn : ∀ name ∈ names, ProperName name) :
    (root.makeDirectory names).WellFormed := by
  refine h.alter hn fun old ho => ?_
  cases old
  case none => exact wellFormed_empty
  case some u => exact ho u rfl

theorem not_mem_of_mem_parts {path part : List Char} (h : part ∈ Path.parts path) : '/' ∉ part := by
  induction path generalizing part
  case nil => simp_all [Path.parts]
  case cons c cs hi =>
    simp only [Path.parts] at h
    split at h
    case isTrue => exact (List.mem_cons.mp h).elim (fun h => h ▸ List.not_mem_nil) hi
    case isFalse hc =>
      have hc : '/' ≠ c := fun h => hc (by simp [← h])
      split at h
      case h_1 p ps hp =>
        rw [hp] at hi
        cases List.mem_cons.mp h
        case inl h => simpa [h, hc] using hi List.mem_cons_self
        case inr h => exact hi (List.mem_cons_of_mem p h)
      case h_2 => simpa [List.mem_singleton.mp h] using hc

theorem properName_of_mem_namesOf {path : String} (h : name ∈ namesOf path)
    (hu : ".." ∉ namesOf path) :
    ProperName name := by
  have ⟨part, hp, hn⟩ := List.mem_map.mp h
  have ⟨hp, hd⟩ := List.mem_filter.mp hp
  simp only [Bool.and_eq_true, bne_iff_ne] at hd
  have ht : name.toList = part := by rw [← hn, String.toList_ofList]
  exact {
    noSlash := ht ▸ not_mem_of_mem_parts hp
    ne_empty := fun he => hd.1 (by simpa [he] using ht.symm)
    ne_here := fun he => hd.2 (by simpa [he] using ht.symm)
    ne_above := fun he => hu (he ▸ h)
  }

def Downwards (entry : Json) : Prop :=
  ∀ path, (entry.get? "path").bind Json.toStr? = some path → ".." ∉ namesOf path

theorem WellFormed.withListed (h : root.WellFormed) {working : List String} {entry : Json}
    (hw : ∀ name ∈ working, ProperName name) (hd : Downwards entry)
    (ht : root.withListed? working entry = some t) :
    t.WellFormed := by
  have ⟨path, hp, ht⟩ := Option.bind_eq_some_iff.mp ht
  have hn : ∀ name ∈ working ++ namesOf path, ProperName name :=
    List.forall_mem_append.mpr ⟨hw, fun _ hm => properName_of_mem_namesOf hm (hd path hp)⟩
  simp only at ht
  split at ht
  case h_1 => exact Option.some.inj ht ▸ h.put hn (.file _)
  case h_2 =>
    have ⟨_, _, ht⟩ := Option.bind_eq_some_iff.mp ht
    exact Option.some.inj ht ▸ h.put hn (.file _)
  case h_3 => exact Option.some.inj ht ▸ h.put hn (.link _)
  case h_4 => exact Option.some.inj ht ▸ h.makeDirectory hn
  case h_5 => cases ht

theorem WellFormed.withAllListed {working : List String} {listed : List Json} (h : root.WellFormed)
    (hw : ∀ name ∈ working, ProperName name) (hd : ∀ entry ∈ listed, Downwards entry)
    (ht : listed.foldlM (·.withListed? working) root = some t) : t.WellFormed := by
  induction listed generalizing root
  case nil => exact Option.some.inj ht ▸ h
  case cons entry rest hi =>
    have ⟨he, hr⟩ := List.forall_mem_cons.mp hd
    have ⟨u, hu, ht⟩ := Option.bind_eq_some_iff.mp ht
    exact hi (h.withListed hw he hu) hr ht

theorem wellFormed_of_listing {working : List String} {listed : List Json}
    (hw : ∀ name ∈ working, ProperName name) (hd : ∀ entry ∈ listed, Downwards entry)
    (h : ofJson? working (.arr listed) = some root) : root.WellFormed :=
  (wellFormed_empty.makeDirectory hw).withAllListed hw hd h

end FileTree
end StateLint
