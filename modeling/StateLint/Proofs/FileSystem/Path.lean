import StateLint.Proofs.FileSystem.Tree

namespace StateLint

namespace Path

variable {base name : String}

theorem parts_ne_nil (path : List Char) : parts path ≠ [] := by
  fun_cases parts path <;> simp_all

theorem parts_append (p q : List Char) : parts (p ++ '/' :: q) = parts p ++ parts q := by
  induction p with
  | nil => simp [parts]
  | cons c cs ih =>
    by_cases hc : c = '/'
    · simp [parts, hc, ih]
    · cases hp : parts cs with
      | nil => exact absurd hp (parts_ne_nil cs)
      | cons part rest => simp [parts, hc, ih, hp]

theorem parts_of_not_mem {path : List Char} (h : '/' ∉ path) : parts path = [path] := by
  induction path with
  | nil => rfl
  | cons c cs ih =>
    simp only [List.mem_cons, not_or] at h
    simp [parts, Ne.symm h.1, ih h.2]

theorem not_isAbsolute (h : '/' ∉ name.toList) : isAbsolute name = false := by
  simpa [isAbsolute] using fun hh => h (List.mem_of_mem_head? hh)

theorem join_ne_empty (hn : name ≠ "") : join base name ≠ "" := by
  unfold join
  split
  case isTrue => exact hn
  case isFalse =>
    split <;> simp [hn]

theorem exists_join_eq_append (hb : base ≠ "") (hr : isAbsolute name = false) :
    ∃ s, join base name = base ++ s := by
  have he : base.isEmpty = false := by simpa using hb
  simp only [join, hr, he, Bool.or_self, Bool.false_eq_true, if_false]
  split
  case isTrue => exact ⟨name, rfl⟩
  case isFalse => exact ⟨"/" ++ name, String.append_assoc⟩

theorem isAbsolute_append {s : String} (hb : base ≠ "") :
    isAbsolute (base ++ s) = isAbsolute base := by
  have hl : base.toList ≠ [] := by simpa using hb
  simp only [isAbsolute, String.toList_append]
  rw [List.head?_append_of_ne_nil _ hl]

theorem toList_join (hb : base ≠ "") (hr : isAbsolute name = false) :
    ∃ q, (join base name).toList = q ++ '/' :: name.toList ∧
      (base.toList = q ∨ base.toList = q ++ ['/']) := by
  have he : base.isEmpty = false := by simpa using hb
  simp only [join, hr, he, Bool.or_self, Bool.false_eq_true, if_false]
  split
  case isTrue hl =>
    obtain ⟨q, hq⟩ := List.getLast?_eq_some_iff.mp (eq_of_beq hl)
    exact ⟨q, by simp [hq], .inr hq⟩
  case isFalse => exact ⟨base.toList, by simp, .inl rfl⟩

theorem fileName?_of_parts {path : String} {before : List (List Char)} (hn : ProperName name)
    (hp : parts path.toList = before ++ [name.toList]) : fileName? path = some name := by
  have he : name.toList ≠ [] := by simpa using hn.ne_empty
  have hh : name.toList ≠ ['.'] := fun h => hn.ne_here (String.toList_inj.mp h)
  have hu : name.toList ≠ ['.', '.'] := fun h => hn.ne_above (String.toList_inj.mp h)
  have hf : [name.toList].filter (fun p => p != [] && p != ['.']) = [name.toList] := by
    simp [he, hh]
  rw [fileName?, hp, List.filter_append, hf, List.getLast?_concat]
  simp [hu]

theorem fileName?_join (hn : ProperName name) : fileName? (join base name) = some name := by
  have hp := parts_of_not_mem hn.noSlash
  by_cases hb : base = ""
  case pos =>
    have hj : join base name = name := by simp [join, hb]
    exact fileName?_of_parts hn (by rw [hj, hp]; exact (List.nil_append _).symm)
  case neg =>
    obtain ⟨q, hq, -⟩ := toList_join hb (not_isAbsolute hn.noSlash)
    exact fileName?_of_parts hn (by rw [hq, parts_append, hp])

end Path

namespace FileTree

variable {root t : FileTree} {links : Nat} {place : List FileTree}

-- Some parts of a path lead to one place or to none, whatever follows them.
theorem exists_place (root : FileTree) (links : Nat) (place : List FileTree)
    (parts : List (List Char)) :
    ∃ x : Except FileError (Nat × List FileTree), ∀ rest,
      root.follow links place (parts ++ rest) = x >>= fun p => root.follow p.1 p.2 rest := by
  fun_induction root.follow links place parts
  case case1 links place => exact ⟨.ok (links, place), fun _ => rfl⟩
  case case2 hd hp hi => simpa only [List.cons_append, follow, hd, if_pos hp] using hi
  case case3 hd hp hi => simpa only [List.cons_append, follow, hd, if_neg hp, if_true] using hi
  case case4 hd hp hu name hl =>
    refine ⟨.error .nameTooLong, fun rest => ?_⟩
    simp only [List.cons_append, follow, hd, if_neg hp, if_neg hu, name, if_pos hl]
    rfl
  case case5 hd hp hu name hl hc =>
    refine ⟨.error .notFound, fun rest => ?_⟩
    simp only [List.cons_append, follow, hd, if_neg hp, if_neg hu, name, if_neg hl, hc]
    rfl
  case case6 hd hp hu name hl target hc =>
    refine ⟨.error .tooManyLinks, fun rest => ?_⟩
    simp only [List.cons_append, follow, hd, if_neg hp, if_neg hu, name, if_neg hl, hc]
    rfl
  case case7 hd hp hu name hl _ hc _ hi =>
    simp only [List.append_assoc, dite_eq_ite] at hi
    simpa only [List.cons_append, follow, hd, if_neg hp, if_neg hu, name, if_neg hl, hc] using hi
  case case8 hd hp hu name hl t ht hc hi =>
    cases t
    case link target => exact absurd rfl (ht target)
    all_goals
      simpa only [List.cons_append, follow, hd, if_neg hp, if_neg hu, name, if_neg hl, hc] using hi
  case case9 hd =>
    refine ⟨.error .notDirectory, fun rest => ?_⟩
    rw [List.cons_append, follow]
    split
    · exact absurd ‹_› (hd _)
    · rfl

theorem headD_of_follow {part : List Char} {rest : List (List Char)}
    (h : root.follow links place (part :: rest) = .ok t) :
    ∃ entries, place.headD root = directory entries := by
  rw [follow] at h
  split at h
  case h_1 entries hd => exact ⟨entries, hd⟩
  case h_2 => cases h

theorem follow_append {parts rest : List (List Char)} (hr : rest ≠ [])
    (h : root.follow links place (parts ++ rest) = .ok t) :
    ∃ entries, root.follow links place parts = .ok (directory entries) ∧
      root.follow links place (parts ++ [[]]) = .ok (directory entries) := by
  obtain ⟨part, rest, rfl⟩ := List.exists_cons_of_ne_nil hr
  obtain ⟨x, hx⟩ := exists_place root links place parts
  rw [hx] at h
  cases x
  case error => cases h
  case ok p =>
    obtain ⟨entries, hd⟩ := headD_of_follow h
    have hs : root.follow p.1 p.2 [] = .ok (directory entries) := by
      rw [follow, hd]
      rfl
    refine ⟨entries, ?_, ?_⟩
    · rw [← List.append_nil parts, hx]
      exact hs
    · rw [hx]
      simpa only [bind, Except.bind, follow, hd, true_or, if_true] using hs

theorem isDirectory_iff {working : List String} {path : String} :
    (root.fileSystem working).isDirectory path ↔
      ∃ entries, fileSystem.entry root working path = .ok (directory entries) := by
  simp only [fileSystem]
  cases fileSystem.entry root working path with
  | error => simp [Except.toOption]
  | ok t => cases t <;> simp [Except.toOption, kind]

-- What has a directory somewhere below it is a directory.
theorem isDirectory_of_join {working : List String} {base path : String} (hb : base ≠ "")
    (hp : Path.isAbsolute path = false)
    (h : (root.fileSystem working).isDirectory (Path.join base path)) :
    (root.fileSystem working).isDirectory base := by
  obtain ⟨entries, he⟩ := isDirectory_iff.mp h
  obtain ⟨hz, -, hl, hf⟩ := resolve_eq_ok.mp he
  obtain ⟨s, hs⟩ := Path.exists_join_eq_append hb hp
  obtain ⟨q, hq, hbase⟩ := Path.toList_join hb hp
  rw [hq, Path.parts_append] at hf
  obtain ⟨entries, hd, hd'⟩ := follow_append (Path.parts_ne_nil _) hf
  refine isDirectory_iff.mpr ⟨entries, resolve_eq_ok.mpr ⟨?_, hb, ?_, ?_⟩⟩
  · simp_all
  · rw [hs, String.utf8ByteSize_append] at hl
    omega
  · rw [hs, Path.isAbsolute_append hb] at hd hd'
    rcases hbase with rfl | hbase
    · exact hd
    · rwa [hbase, Path.parts_append, Path.parts]

end FileTree
end StateLint
