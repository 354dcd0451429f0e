import StateLint.Proofs.FileSystem.Tree

namespace StateLint

namespace FileSystem

variable {fs : FileSystem} {kind : EntryKind} {path name : String} {names : List String}

structure Lawful (fs : FileSystem) : Prop where
  isDirectory : ∀ {path entries}, fs.list path = .ok entries → fs.isDirectory path
  nodup       : ∀ {path entries}, fs.list path = .ok entries → (entries.map (·.name)).Nodup
  noSlash     : ∀ {path entries}, fs.list path = .ok entries → ∀ e ∈ entries, '/' ∉ e.name.toList

def Has (fs : FileSystem) (kind : EntryKind) (path name : String) : Prop :=
  ∃ entries, fs.list path = .ok entries ∧ ⟨name, kind⟩ ∈ entries

structure First (fs : FileSystem) (path : String) (p : String → Bool) (name : String) : Prop where
  has   : fs.Has .file path name
  holds : p name
  least : ∀ other, fs.Has .file path other → p other → name ≤ other

theorem exists_list_of_names (h : fs.names kind path = .ok names) :
    ∃ entries, fs.list path = .ok entries ∧
      ((entries.filter (·.kind = kind)).map (·.name)).mergeSort = names := by
  unfold FileSystem.names at h
  cases hl : fs.list path
  case error => simp [hl, bind, Except.bind] at h
  case ok entries =>
    exact ⟨entries, rfl, by simpa [hl, bind, Except.bind, pure, Except.pure] using h⟩

theorem mem_names (h : fs.names kind path = .ok names) : name ∈ names ↔ fs.Has kind path name := by
  have ⟨entries, hl, hs⟩ := exists_list_of_names h
  rw [← hs, List.mem_mergeSort]
  simp only [Has, hl, List.mem_map, List.mem_filter, decide_eq_true_eq, Except.ok.injEq,
    exists_eq_left']
  constructor
  case mp =>
    rintro ⟨e, ⟨he, rfl⟩, rfl⟩
    exact he
  case mpr => exact fun he => ⟨_, ⟨he, rfl⟩, rfl⟩

theorem sorted_names (h : fs.names kind path = .ok names) : names.Pairwise (· ≤ ·) := by
  have ⟨entries, _, hs⟩ := exists_list_of_names h
  have hp := @List.pairwise_mergeSort _ (fun a b : String => decide (a ≤ b))
    (fun _ _ _ => by simpa using String.le_trans) (fun a b => by simpa using String.le_total a b)
    ((entries.filter (·.kind = kind)).map (·.name))
  simpa only [← hs, decide_eq_true_eq] using hp

theorem Lawful.nodup_names (hl : fs.Lawful) (h : fs.names kind path = .ok names) : names.Nodup := by
  have ⟨entries, he, hs⟩ := exists_list_of_names h
  rw [← hs, (List.mergeSort_perm _ _).nodup_iff]
  exact (hl.nodup he).sublist (List.filter_sublist.map _)

theorem Lawful.not_mem_name (hl : fs.Lawful) (h : fs.Has kind path name) : '/' ∉ name.toList := by
  have ⟨_, he, hm⟩ := h
  exact hl.noSlash he _ hm

theorem First.unique {p : String → Bool} {other : String} (h : fs.First path p name)
    (ho : fs.First path p other) :
    name = other :=
  String.le_antisymm (h.least other ho.has ho.holds) (ho.least name h.has h.holds)

theorem first_of_find? {p : String → Bool} (h : fs.names .file path = .ok names)
    (hf : names.find? p = some name) :
    fs.First path p name where
  has := (mem_names h).mp (List.mem_of_find?_eq_some hf)
  holds := List.find?_some hf
  least := by
    intro other ho hp
    have ⟨_, before, behind, hn, hb⟩ := List.find?_eq_some_iff_append.mp hf
    have hs := sorted_names h
    have hm := (mem_names h).mpr ho
    rw [hn] at hs hm
    rcases List.mem_append.mp hm with hm | hm
    case inl => simpa [hp] using hb other hm
    case inr =>
      rcases List.mem_cons.mp hm with rfl | hm
      case inl => exact String.le_refl _
      case inr => exact List.rel_of_pairwise_cons (List.pairwise_append.mp hs).right.left hm

theorem find?_names {p : String → Bool} (h : fs.names .file path = .ok names) :
    names.find? p = some name ↔ fs.First path p name := by
  constructor
  case mp => exact first_of_find? h
  case mpr =>
    intro hf
    have hi := List.find?_isSome.mpr ⟨name, (mem_names h).mpr hf.has, hf.holds⟩
    have ⟨other, ho⟩ := Option.isSome_iff_exists.mp hi
    rw [ho, hf.unique (first_of_find? h ho)]

theorem find?_names_eq_none {p : String → Bool} (h : fs.names .file path = .ok names) :
    names.find? p = none ↔ ∀ name, fs.Has .file path name → ¬p name := by
  simp [List.find?_eq_none, mem_names h]

theorem find?_names_eq {other : String} (h : fs.names .file path = .ok names) :
    names.find? (· = name) = some other ↔ fs.Has .file path name ∧ other = name := by
  rw [← mem_names h]
  constructor
  case mp =>
    intro hf
    have ho : other = name := by simpa using List.find?_some hf
    exact ⟨ho ▸ List.mem_of_find?_eq_some hf, ho⟩
  case mpr =>
    rintro ⟨hm, rfl⟩
    cases hf : names.find? (· = other)
    case none => exact absurd (decide_eq_true rfl) (List.find?_eq_none.mp hf other hm)
    case some => simpa using List.find?_some hf

end FileSystem

namespace FileTree

variable {root : FileTree}

def listing (entries : List (EntryName × FileTree)) : List DirectoryEntry :=
  entries.filterMap fun e => e.1.text?.map fun name => ⟨name, e.2.kind⟩

theorem mem_listing {entries : List (EntryName × FileTree)} {e : DirectoryEntry} :
    e ∈ listing entries ↔ ∃ t, (EntryName.text e.name, t) ∈ entries ∧ t.kind = e.kind := by
  simp only [listing, List.mem_filterMap, Option.map_eq_some_iff]
  constructor
  case mp =>
    rintro ⟨⟨_ | _, t⟩, ht, name, hn, rfl⟩
    case text => exact ⟨t, Option.some.inj hn ▸ ht, rfl⟩
    case bytes => cases hn
  case mpr =>
    rintro ⟨t, ht, hk⟩
    exact ⟨_, ht, e.name, rfl, by simp [hk]⟩

theorem nodup_listing {entries : List (EntryName × FileTree)} (h : (entries.map (·.1)).Nodup) :
    ((listing entries).map (·.name)).Nodup := by
  have hn : (listing entries).map (·.name) = (entries.map (·.1)).filterMap (·.text?) := by
    simp [listing, List.map_filterMap, List.filterMap_map, Function.comp_def]
  rw [hn]
  refine List.Nodup.filterMap (fun a b name ha hb => ?_) h
  cases a <;> cases b <;> simp_all [EntryName.text?]

theorem list_eq_ok {working : List String} {path : String} {listed : List DirectoryEntry} :
    (root.fileSystem working).list path = .ok listed ↔
      ∃ entries, fileSystem.entry root working path = .ok (directory entries) ∧
        listed = listing entries := by
  simp only [fileSystem, listing]
  cases fileSystem.entry root working path with
  | error => simp [bind, Except.bind]
  | ok t =>
    cases t <;>
      simp [bind, Except.bind, pure, Except.pure, throw, throwThe, MonadExceptOf.throw, eq_comm]

theorem WellFormed.lawful (h : root.WellFormed) (working : List String) :
    (root.fileSystem working).Lawful where
  isDirectory hl := by
    obtain ⟨entries, he, _⟩ := list_eq_ok.mp hl
    simp [fileSystem, he, Except.toOption, kind]
  nodup hl := by
    obtain ⟨entries, he, rfl⟩ := list_eq_ok.mp hl
    cases h.entry he
    case directory hd _ _ => exact nodup_listing hd
  noSlash hl e hm := by
    obtain ⟨entries, he, rfl⟩ := list_eq_ok.mp hl
    obtain ⟨t, ht, _⟩ := mem_listing.mp hm
    cases h.entry he
    case directory _ hs _ => exact (hs _ ht e.name rfl).noSlash

end FileTree
end StateLint
