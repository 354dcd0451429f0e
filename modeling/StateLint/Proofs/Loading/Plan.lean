import Mathlib.Data.List.Flatten
import StateLint.Project
import StateLint.Proofs.FileSystem.Listing

namespace StateLint

namespace Path

variable {base relative : String}

def stem (base : String) : String :=
  if base.isEmpty then "" else if base.toList.getLast? == some '/' then base else base ++ "/"

theorem join_eq (h : isAbsolute relative = false) : join base relative = stem base ++ relative := by
  unfold join stem
  by_cases he : base.isEmpty
  case pos => simp [h, he]
  case neg =>
    by_cases hl : base.toList.getLast? == some '/' <;> simp [h, he, hl]

theorem stem_append {c : Char} (hl : relative.toList.getLast? = some c) (hc : c ≠ '/') :
    stem (base ++ relative) = base ++ relative ++ "/" := by
  have hl : (base ++ relative).toList.getLast? = some c := by
    rw [String.toList_append, List.getLast?_append, hl, Option.some_or]
  have he : (base ++ relative).isEmpty = false := by
    refine Bool.eq_false_iff.mpr fun he => ?_
    rw [String.isEmpty_iff.mp he] at hl
    cases hl
  rw [stem, he, hl]
  simp [hc]

end Path

theorem endsWith_iff {text ending : String} :
    text.endsWith ending ↔ ending.toList <:+ text.toList := by
  rw [String.endsWith_eq_endsWith_toSlice, String.Slice.endsWith_string_iff, String.copy_toSlice]

theorem join_join {root name : String} (hn : '/' ∉ name.toList) :
    Path.join (Path.join root stateClassDirectory) name =
      Path.join root (stateClassDirectory ++ "/" ++ name) := by
  have ha : Path.isAbsolute name = false := by
    cases h : name.toList
    case nil => simp [Path.isAbsolute, h]
    case cons c cs =>
      have hc : c ≠ '/' := fun hc => hn (h ▸ hc ▸ List.mem_cons_self)
      simpa [Path.isAbsolute, h] using hc
  have hd : Path.isAbsolute stateClassDirectory = false := by decide
  have hf : Path.isAbsolute (stateClassDirectory ++ "/" ++ name) = false := by
    simp [Path.isAbsolute, stateClassDirectory]
  rw [Path.join_eq ha, Path.join_eq hd, Path.join_eq hf,
    Path.stem_append (c := 's') (by decide) (by decide)]
  simp [String.append_assoc]

namespace Sources

inductive Part where
  | stateArray
  | stateClasses
  | clientScript
  | mainScript
  | serverScripts
  deriving DecidableEq

def Part.all : List Part :=
  [.stateArray, .stateClasses, .clientScript, .mainScript, .serverScripts]

variable {fs : FileSystem} {root path name : String} {files : List String}
  {classes : Option (List String)} {part : Part}

def readAt (fs : FileSystem) (root path : String) : Except UnreadableFile SourceFile :=
  readFile fs (Path.join root path) path

structure Plan where
  stateArray : Option String
  -- The state classes, or nothing if they have no directory.
  stateClasses : Option (List String)
  clientScript : Option String
  mainScript : Option String
  serverScripts : List String

namespace Plan

def of (p : Plan) : Part → List String
  | .stateArray => p.stateArray.toList
  | .stateClasses => p.stateClasses.getD []
  | .clientScript => p.clientScript.toList
  | .mainScript => p.mainScript.toList
  | .serverScripts => p.serverScripts

def paths (p : Plan) : List String :=
  Part.all.flatMap p.of

def read (p : Plan) (fs : FileSystem) (root : String) : Sources where
  stateArray := p.stateArray.bind fun path => (readAt fs root path).toOption
  stateClasses := readable ((p.stateClasses.getD []).map (readAt fs root))
  classDirectory := p.stateClasses.map fun _ => stateClassDirectory ++ "/"
  clientScript := p.clientScript.bind fun path => (readAt fs root path).toOption
  mainScript := p.mainScript.bind fun path => (readAt fs root path).toOption
  serverScripts := readable (p.serverScripts.map (readAt fs root))
  unreadable := failed (p.paths.map (readAt fs root))

def ofFiles (fs : FileSystem) (root : String) (files : List String)
    (classes : Option (List String)) : Plan where
  stateArray := files.find? (· = stateArrayFile)
  stateClasses :=
    classes.map fun names =>
    (names.filter (·.endsWith ".php")).map (stateClassDirectory ++ "/" ++ ·)
  clientScript := files.find? isClientScript
  mainScript := (mainScriptName? files).or
    (if fs.isFile (Path.join root innerMainScript) then some innerMainScript else none)
  serverScripts :=
    files.filter fun name =>
    name.endsWith ".php" && name != stateArrayFile && some name != mainScriptName? files

end Plan

def classNames (fs : FileSystem) (root : String) : Except FileError (Option (List String)) :=
  let directory := Path.join root stateClassDirectory
  if fs.isDirectory directory then (fs.names .file directory).map some else .ok none

theorem loadClasses_eq (hl : fs.Lawful) (files : List String) :
    loadClasses fs root = (classNames fs root).map fun classes =>
      (Plan.ofFiles fs root files classes).stateClasses.map (·.map (readAt fs root)) := by
  simp only [loadClasses, classNames]
  split
  case isFalse => rfl
  case isTrue =>
    cases h : fs.names .file (Path.join root stateClassDirectory)
    case error => rfl
    case ok names =>
      have hr : ∀ name ∈ names.filter (·.endsWith ".php"),
          readFile fs (Path.join (Path.join root stateClassDirectory) name)
              (stateClassDirectory ++ "/" ++ name) =
            readAt fs root (stateClassDirectory ++ "/" ++ name) := by
        intro name hm
        rw [readAt,
          join_join (hl.not_mem_name ((FileSystem.mem_names h).mp (List.mem_filter.mp hm).left))]
      simp [Except.map, Plan.ofFiles, bind, Except.bind, pure, Except.pure, List.map_congr_left hr]

theorem head?_readable_singleton {result : Except UnreadableFile SourceFile} :
    (readable [result]).head? = result.toOption := by
  cases result <;> rfl

theorem head?_readable {only : Option String} {read : String → Except UnreadableFile SourceFile} :
    (readable (only.toList.map read)).head? = only.bind fun path => (read path).toOption := by
  cases only
  case none => rfl
  case some => exact head?_readable_singleton

theorem filter_eq_toList_find? (hd : files.Nodup) :
    files.filter (· = name) = (files.find? (· = name)).toList := by
  induction files
  case nil => rfl
  case cons file files hi =>
    have ⟨hm, hd⟩ := List.nodup_cons.mp hd
    by_cases h : file = name
    case pos => simpa [h] using fun other ho he => hm (h ▸ (he : other = name) ▸ ho)
    case neg => simpa [h] using hi hd

theorem load_eq (hl : fs.Lawful) :
    load fs root = (fs.names .file root).bind fun files =>
      (classNames fs root).map fun classes =>
        (Plan.ofFiles fs root files classes).read fs root := by
  unfold load
  cases h : fs.names .file root
  case error => rfl
  case ok files =>
    rw [loadClasses_eq hl files]
    cases classNames fs root
    case error => rfl
    case ok classes =>
      have hc (names : Option (List String)) :
          (names.map (·.map (readAt fs root))).getD [] = (names.getD []).map (readAt fs root) := by
            cases names <;> rfl
      simp only [bind, Except.bind, pure, Except.pure, Except.map, hc, head?_readable,
        filter_eq_toList_find? (hl.nodup_names h), Plan.read, Plan.paths, Part.all, Plan.of,
        List.flatMap_cons, List.flatMap_nil, List.map_append, List.append_assoc, List.append_nil,
        Option.map_map]
      split
      case h_1 name hn =>
        have hp : (Plan.ofFiles fs root files classes).mainScript = some name := by
          simp [Plan.ofFiles, hn]
        simp only [hp, head?_readable_singleton]
        rfl
      case h_2 hn =>
        by_cases hf : fs.isFile (Path.join root innerMainScript)
        case pos =>
          have hp : (Plan.ofFiles fs root files classes).mainScript = some innerMainScript := by
            simp [Plan.ofFiles, hn, hf]
          simp only [hp, hf, if_true, head?_readable_singleton]
          rfl
        case neg =>
          have hp : (Plan.ofFiles fs root files classes).mainScript = none := by
            simp [Plan.ofFiles, hn, hf]
          simp only [hp, hf]
          rfl

-- Where the main script is looked for: one place after the other, so that at most one is the place.
inductive MainPlace (fs : FileSystem) (root : String) : String → Prop
  | whole (h : fs.Has .file root "Game.php") : MainPlace fs root "Game.php"
  | ending {name : String} (hw : ¬fs.Has .file root "Game.php")
    (h : fs.First root (·.endsWith ".game.php") name) :
    MainPlace fs root name
  | inner (hw : ¬fs.Has .file root "Game.php") (he : ∀ name, fs.Has .file root name →
    ¬name.endsWith ".game.php")
    (h : fs.isFile (Path.join root innerMainScript)) : MainPlace fs root innerMainScript

theorem not_endsWith_js (h : path.endsWith ".php") : ¬path.endsWith ".js" := by
  rw [endsWith_iff] at h ⊢
  intro hj
  rcases List.suffix_or_suffix_of_suffix h hj with hs | hs <;> revert hs <;> decide

theorem endsWith_php_of_game (h : path.endsWith ".game.php") : path.endsWith ".php" := by
  rw [endsWith_iff] at h ⊢
  exact List.IsSuffix.trans (by decide) h

theorem endsWith_js_of_isClientScript (h : isClientScript path) : path.endsWith ".js" := by
  simp only [isClientScript, Bool.and_eq_true] at h
  exact h.left.left

theorem mainScript_eq_some (h : fs.names .file root = .ok files) (classes : Option (List String)) :
    (Plan.ofFiles fs root files classes).mainScript = some path ↔ MainPlace fs root path := by
  have hw := @FileSystem.find?_names_eq_none _ _ _ (· = "Game.php") h
  have he := @FileSystem.find?_names_eq_none _ _ _ (·.endsWith ".game.php") h
  simp only [Plan.ofFiles, mainScriptName?, Option.or_eq_some_iff, Option.or_eq_none_iff,
    FileSystem.find?_names_eq h, hw, he, FileSystem.find?_names h]
  constructor
  case mp =>
    rintro ((⟨hg, rfl⟩ | ⟨hw, hf⟩) | ⟨⟨hw, he⟩, hi⟩)
    case inl.inl => exact .whole hg
    case inl.inr => exact .ending (fun hg => hw _ hg (decide_eq_true rfl)) hf
    case inr =>
      have ⟨hi, hp⟩ : fs.isFile (Path.join root innerMainScript) ∧ innerMainScript = path := by
        simpa using hi
      exact hp ▸ .inner (fun hg => hw _ hg (decide_eq_true rfl)) he hi
  case mpr =>
    have hn (hw : ¬fs.Has .file root "Game.php") name (hg : fs.Has .file root name) :
        ¬decide (name = "Game.php") :=
      fun hd => hw (of_decide_eq_true hd ▸ hg)
    intro hp
    cases hp
    case whole hg => exact .inl (.inl ⟨hg, rfl⟩)
    case ending hw hf => exact .inl (.inr ⟨hn hw, hf⟩)
    case inner hw he hi => exact .inr ⟨⟨hn hw, he⟩, if_pos hi⟩

theorem MainPlace.php (h : MainPlace fs root path) : path.endsWith ".php" := by
  cases h
  case whole => exact endsWith_iff.mpr (by decide)
  case ending h => exact endsWith_php_of_game h.holds
  case inner => exact endsWith_iff.mpr (by decide)

theorem MainPlace.ne_stateArrayFile (h : MainPlace fs root path) : path ≠ stateArrayFile := by
  intro hp
  cases h
  case whole => exact absurd hp (by decide)
  case ending h => exact absurd (endsWith_iff.mp (hp ▸ h.holds)) (by decide)
  case inner => exact absurd hp (by decide)

theorem MainPlace.eq_inner (hl : fs.Lawful) (h : MainPlace fs root path) (hs : '/' ∈ path.toList) :
    path = innerMainScript := by
  cases h
  case whole => exact absurd hs (by decide)
  case ending h => exact absurd hs (hl.not_mem_name h.has)
  case inner => rfl

theorem mem_stateClasses : path ∈ (Plan.ofFiles fs root files classes).of .stateClasses ↔
    ∃ names, classes = some names ∧ ∃ name ∈ names, name.endsWith ".php" ∧
      stateClassDirectory ++ "/" ++ name = path := by
  cases classes <;> simp [Plan.of, Plan.ofFiles, and_assoc]

theorem classPath_endsWith (h : name.endsWith ".php") :
    (stateClassDirectory ++ "/" ++ name).endsWith ".php" := by
  rw [endsWith_iff] at h ⊢
  rw [String.toList_append]
  exact h.trans (List.suffix_append _ _)

theorem slash_mem_classPath : '/' ∈ (stateClassDirectory ++ "/" ++ name).toList := by
  simp

theorem classPath_ne_inner : stateClassDirectory ++ "/" ++ name ≠ innerMainScript := by
  intro h
  have ht := congrArg String.toList h
  simp [stateClassDirectory, innerMainScript] at ht

theorem mem_stateClasses_of_has (hl : fs.Lawful) (hc : classNames fs root = .ok classes)
    (hn : fs.Has .file (Path.join root stateClassDirectory) name) (he : name.endsWith ".php") :
    stateClassDirectory ++ "/" ++ name ∈ (Plan.ofFiles fs root files classes).of .stateClasses := by
  have ⟨_, hd, _⟩ := hn
  simp only [classNames, hl.isDirectory hd, if_true] at hc
  cases h : fs.names .file (Path.join root stateClassDirectory)
  case error => simp [h, Except.map] at hc
  case ok names =>
    have hc : some names = classes := by simpa [h, Except.map] using hc
    exact mem_stateClasses.mpr ⟨names, hc.symm, name, (FileSystem.mem_names h).mpr hn, he, rfl⟩

theorem exists_part_of_rootScript (classes : Option (List String))
    (hf : fs.names .file root = .ok files) (hn : fs.Has .file root name)
    (he : name.endsWith ".php") : ∃ part ∈ [Part.stateArray, .mainScript, .serverScripts],
      name ∈ (Plan.ofFiles fs root files classes).of part := by
  by_cases ha : name = stateArrayFile
  case pos =>
    have hs := (FileSystem.find?_names_eq hf).mpr ⟨ha ▸ hn, ha⟩
    exact ⟨.stateArray, by simp, Option.mem_toList.mpr hs⟩
  by_cases hm : mainScriptName? files = some name
  case pos =>
    exact ⟨.mainScript, by simp, Option.mem_toList.mpr (Option.or_eq_some_iff.mpr (.inl hm))⟩
  refine ⟨.serverScripts, by simp, List.mem_filter.mpr ⟨(FileSystem.mem_names hf).mpr hn, ?_⟩⟩
  simpa [he, ha] using Ne.symm hm

theorem endsWith_php_of_mem (hf : fs.names .file root = .ok files)
    (hp : path ∈ (Plan.ofFiles fs root files classes).of part) :
    path.endsWith ".php" ∨ part = .clientScript := by
  cases part
  case stateArray =>
    have ⟨_, ha⟩ := (FileSystem.find?_names_eq hf).mp (Option.mem_toList.mp hp)
    exact .inl (ha ▸ endsWith_iff.mpr (by decide))
  case stateClasses =>
    obtain ⟨_, _, _, _, he, rfl⟩ := mem_stateClasses.mp hp
    exact .inl (classPath_endsWith he)
  case clientScript => exact .inr rfl
  case mainScript => exact .inl ((mainScript_eq_some hf classes).mp (Option.mem_toList.mp hp)).php
  case serverScripts =>
    have ⟨_, hp⟩ := List.mem_filter.mp hp
    simp only [Bool.and_eq_true] at hp
    exact .inl hp.left.left

def partOf (p : Plan) (path : String) : Part :=
  if path = stateArrayFile then .stateArray
  else if p.mainScript = some path then .mainScript
  else if path.endsWith ".js" then .clientScript
  else if '/' ∈ path.toList then .stateClasses
  else .serverScripts

theorem partOf_eq (hl : fs.Lawful) (h : fs.names .file root = .ok files)
    (hp : path ∈ (Plan.ofFiles fs root files classes).of part) :
    partOf (.ofFiles fs root files classes) path = part := by
  have hm := @mainScript_eq_some _ _ path _ h classes
  have ha : stateArrayFile.endsWith ".php" := endsWith_iff.mpr (by decide)
  cases part
  case stateArray =>
    have ⟨_, ha⟩ := (FileSystem.find?_names_eq h).mp (Option.mem_toList.mp hp)
    exact if_pos ha
  case mainScript =>
    have hp := Option.mem_toList.mp hp
    simp [partOf, (hm.mp hp).ne_stateArrayFile, hp]
  case clientScript =>
    have hf := (FileSystem.find?_names h).mp (Option.mem_toList.mp hp)
    have hj := endsWith_js_of_isClientScript hf.holds
    have hn : (Plan.ofFiles fs root files classes).mainScript ≠ some path :=
      fun h => not_endsWith_js (hm.mp h).php hj
    rw [partOf, if_neg fun h : path = _ => not_endsWith_js (h ▸ ha) hj, if_neg hn, if_pos hj]
  case stateClasses =>
    obtain ⟨_, _, name, _, hn, rfl⟩ := mem_stateClasses.mp hp
    have hs : '/' ∈ (stateClassDirectory ++ "/" ++ name).toList := slash_mem_classPath
    have hm := fun h => classPath_ne_inner ((hm.mp h).eq_inner hl hs)
    have ha : stateClassDirectory ++ "/" ++ name ≠ stateArrayFile :=
      fun h => absurd (h ▸ hs) (by decide)
    rw [partOf, if_neg ha, if_neg hm, if_neg (not_endsWith_js (classPath_endsWith hn)), if_pos hs]
  case serverScripts =>
    have ⟨hf, hp⟩ := List.mem_filter.mp hp
    simp only [Bool.and_eq_true, bne_iff_ne] at hp
    have ⟨⟨hp, ha⟩, hn⟩ := hp
    have hs := hl.not_mem_name ((FileSystem.mem_names h).mp hf)
    have hm : (Plan.ofFiles fs root files classes).mainScript ≠ some path := by
      intro hm
      rcases Option.or_eq_some_iff.mp hm with h | ⟨_, h⟩
      case inl => exact hn h.symm
      case inr =>
        have ⟨_, hp⟩ : fs.isFile (Path.join root innerMainScript) ∧ innerMainScript = path := by
          simpa using h
        exact hs (hp ▸ by decide)
    rw [partOf, if_neg ha, if_neg hm, if_neg (not_endsWith_js hp), if_neg hs]

theorem nodup_toList (only : Option String) : only.toList.Nodup := by
  cases only <;> simp

theorem nodup_of (hl : fs.Lawful) (h : fs.names .file root = .ok files)
    (hc : classNames fs root = .ok classes) (part : Part) :
    ((Plan.ofFiles fs root files classes).of part).Nodup := by
  cases part
  case stateArray | clientScript | mainScript => exact nodup_toList _
  case serverScripts => exact (hl.nodup_names h).filter _
  case stateClasses =>
    simp only [classNames] at hc
    split at hc
    case isTrue =>
      cases hn : fs.names .file (Path.join root stateClassDirectory)
      case error => simp [hn, Except.map] at hc
      case ok names =>
        have hc : some names = classes := by simpa [hn, Except.map] using hc
        simp only [Plan.of, Plan.ofFiles, ← hc, Option.map_some, Option.getD_some]
        exact ((hl.nodup_names hn).filter _).map fun _ _ => by simp
    case isFalse => simp [Plan.of, Plan.ofFiles, ← Except.ok.inj hc]

theorem nodup_paths (hl : fs.Lawful) (h : fs.names .file root = .ok files)
    (hc : classNames fs root = .ok classes) :
    (Plan.ofFiles fs root files classes).paths.Nodup := by
  refine List.nodup_flatMap.mpr ⟨fun part _ => nodup_of hl h hc part, ?_⟩
  have hd : Part.all.Nodup := by decide
  refine hd.imp fun hn path hp hq => hn ?_
  rw [← partOf_eq hl h hp, ← partOf_eq hl h hq]

end Sources
end StateLint
