import StateLint.Proofs.Loading.Plan
import StateLint.Proofs.Model
import StateLint.Proofs.UnreadableFile

namespace StateLint.Sources

variable {fs : FileSystem} {root path : String} {s : Sources} {p : Plan} {part : Part}

def filesOf (s : Sources) : Part → List SourceFile
  | .stateArray => s.stateArray.toList
  | .stateClasses => s.stateClasses
  | .clientScript => s.clientScript.toList
  | .mainScript => s.mainScript.toList
  | .serverScripts => s.serverScripts

def pathsOf (s : Sources) (parts : List Part) : List String :=
  (parts.flatMap s.filesOf).map (·.path) ++ s.unreadable.map (·.path)

-- A part for one file at most. The only candidate plays it if it can be read; otherwise nothing
-- does, and it is told of.
structure Takes (fs : FileSystem) (root : String) (s : Sources) (isCandidate : String → Prop)
    (part : Option SourceFile) : Prop where
  candidate  : ∀ f ∈ part, isCandidate f.path
  read       : ∀ path f, isCandidate path → readAt fs root path = .ok f → part = some f
  unreadable : ∀ path f, isCandidate path → readAt fs root path = .error f → part = none ∧
    f ∈ s.unreadable

-- Every file of a game has its one place in what was loaded.
structure Assigned (fs : FileSystem) (root : String) (s : Sources) : Prop where
  -- Nothing is there but files of the game, each at its own path.
  read         : ∀ part, ∀ f ∈ s.filesOf part, readAt fs root f.path = .ok f
  unreadable   : ∀ f ∈ s.unreadable, readAt fs root f.path = .error f
  distinct     : (s.pathsOf Part.all).Nodup
  -- The scripts of the server.
  rootScript   : ∀ name, fs.Has .file root name → name.endsWith ".php" →
    (s.pathsOf [.stateArray, .mainScript, .serverScripts]).count name = 1
  classScript  : ∀ name, fs.Has .file (Path.join root stateClassDirectory) name →
    name.endsWith ".php" →
    (s.pathsOf [.stateClasses]).count (stateClassDirectory ++ "/" ++ name) = 1
  stateArray   : Takes fs root s (fun path => fs.Has .file root stateArrayFile ∧
    path = stateArrayFile) s.stateArray
  mainScript   : Takes fs root s (MainPlace fs root) s.mainScript
  -- The script of the client.
  clientScript : Takes fs root s (fs.First root isClientScript) s.clientScript
  onlyClient   : ∀ path ∈ s.pathsOf Part.all, path.endsWith ".js" →
    fs.First root isClientScript path
  -- A state is known by its location.
  ownFile      : ∀ d ∈ (Model.ofSources s).states, d.layout = .stateClass →
    ∃ f ∈ s.stateClasses, Model.classState? f = some d ∧ s.stateClass? d.location = some f

theorem path_of_readAt_ok {f : SourceFile} (h : readAt fs root path = .ok f) : f.path = path := by
  unfold readAt readFile at h
  split at h
  case h_1 => exact Except.ok.inj h ▸ rfl
  case h_2 => cases h

theorem path_of_readAt_error {f : UnreadableFile} (h : readAt fs root path = .error f) :
    f.path = path := by
  unfold readAt readFile at h
  split at h
  case h_1 => cases h
  case h_2 => exact Except.error.inj h ▸ rfl

theorem mem_readable {results : List (Except UnreadableFile SourceFile)} {f : SourceFile} :
    f ∈ readable results ↔ .ok f ∈ results := by
  simp only [readable, List.mem_filterMap]
  constructor
  case mp =>
    rintro ⟨_ | g, hm, hg⟩
    case error => cases hg
    case ok => exact Option.some.inj hg ▸ hm
  case mpr => exact fun hm => ⟨_, hm, rfl⟩

theorem toList_bind_readAt {only : Option String} :
    (only.bind fun path => (readAt fs root path).toOption).toList =
      readable (only.toList.map (readAt fs root)) := by
  cases only
  case none => rfl
  case some path => cases h : readAt fs root path <;> simp [readable, h, Except.toOption]

theorem filesOf_read (p : Plan) (part : Part) :
    (p.read fs root).filesOf part = readable ((p.of part).map (readAt fs root)) := by
  cases part
  case stateArray | clientScript | mainScript => exact toList_bind_readAt
  case stateClasses | serverScripts => rfl

theorem perm_readable_failed (paths : List String) :
    ((readable (paths.map (readAt fs root))).map (·.path) ++
      (failed (paths.map (readAt fs root))).map (·.path)).Perm paths := by
  induction paths
  case nil => rfl
  case cons path paths hi =>
    cases h : readAt fs root path
    case ok f => simpa [readable, failed, h, path_of_readAt_ok h, Except.toOption] using hi
    case error f =>
      simpa [readable, failed, h, path_of_readAt_error h, Except.toOption]
        using List.perm_middle.trans (hi.cons path)

theorem perm_pathsOf_all (p : Plan) : ((p.read fs root).pathsOf Part.all).Perm p.paths := by
  have hf : Part.all.flatMap (p.read fs root).filesOf =
      readable (p.paths.map (readAt fs root)) := by
    rw [funext (filesOf_read p), Plan.paths]
    simp only [readable, List.map_flatMap, List.filterMap_flatMap]
  have hu : (p.read fs root).unreadable = failed (p.paths.map (readAt fs root)) := rfl
  rw [pathsOf, hf, hu]
  exact perm_readable_failed p.paths

theorem mem_paths (h : path ∈ p.of part) : path ∈ p.paths :=
  List.mem_flatMap.mpr ⟨part, by cases part <;> decide, h⟩

theorem pathsOf_sublist {parts more : List Part} (h : parts.Sublist more) :
    (s.pathsOf parts).Sublist (s.pathsOf more) :=
  ((h.flatMap _).map _).append_right _

theorem takes_read {isCandidate : String → Prop} {only : Option String} (part : Part)
    (ho : only.toList = p.of part) (hc : ∀ path, only = some path ↔ isCandidate path) :
    Takes fs root (p.read fs root) isCandidate (only.bind fun path =>
      (readAt fs root path).toOption) where
  candidate := by
    intro f hf
    have hm : f ∈ readable (only.toList.map (readAt fs root)) :=
      toList_bind_readAt ▸ Option.mem_toList.mpr hf
    have ⟨path, hp, hr⟩ := List.mem_map.mp (mem_readable.mp hm)
    exact (hc _).mp (path_of_readAt_ok hr ▸ Option.mem_toList.mp hp)
  read := by
    intro path f hp hr
    simp [(hc path).mpr hp, hr, Except.toOption]
  unreadable := by
    intro path f hp hr
    have hp := (hc path).mpr hp
    have hm : path ∈ p.paths := mem_paths (ho ▸ Option.mem_toList.mpr hp)
    exact ⟨by simp [hp, hr, Except.toOption], mem_failed.mpr (List.mem_map.mpr ⟨path, hm, hr⟩)⟩

theorem count_pathsOf {parts : List Part} (hd : p.paths.Nodup) (hp : path ∈ p.of part)
    (hm : part ∈ parts) (hs : parts.Sublist Part.all) :
    ((p.read fs root).pathsOf parts).count path = 1 := by
  have hd : ((p.read fs root).pathsOf Part.all).Nodup := (perm_pathsOf_all p).nodup_iff.mpr hd
  refine List.count_eq_one_of_mem (hd.sublist (pathsOf_sublist hs)) (List.mem_append.mpr ?_)
  cases hr : readAt fs root path
  case ok f =>
    have hf : f ∈ (p.read fs root).filesOf part :=
      filesOf_read p part ▸ mem_readable.mpr (hr ▸ List.mem_map_of_mem hp)
    exact .inl (List.mem_map.mpr ⟨f, List.mem_flatMap.mpr ⟨part, hm, hf⟩, path_of_readAt_ok hr⟩)
  case error f =>
    have hf : f ∈ (p.read fs root).unreadable :=
      mem_failed.mpr (hr ▸ List.mem_map_of_mem (mem_paths hp))
    exact .inr (List.mem_map.mpr ⟨f, hf, path_of_readAt_error hr⟩)

theorem exists_plan_of_load (hl : fs.Lawful) (h : load fs root = .ok s) :
    ∃ files classes, fs.names .file root = .ok files ∧ classNames fs root = .ok classes ∧
      (Plan.ofFiles fs root files classes).read fs root = s := by
  rw [load_eq hl] at h
  cases hf : fs.names .file root
  case error => simp [hf, Except.bind] at h
  case ok files =>
    cases hc : classNames fs root
    case error => simp [hf, hc, Except.bind, Except.map] at h
    case ok classes =>
      exact ⟨files, classes, rfl, rfl, by simpa [hf, hc, Except.bind, Except.map] using h⟩

-- Each file of a game is loaded once, in its own part or as one that cannot be read.
theorem load_assigned (hl : fs.Lawful) (h : load fs root = .ok s) : s.Assigned fs root := by
  obtain ⟨files, classes, hf, hc, rfl⟩ := exists_plan_of_load hl h
  have hd := nodup_paths hl hf hc
  have hs : (pathsOf ((Plan.ofFiles fs root files classes).read fs root) Part.all).Nodup :=
    (perm_pathsOf_all _).nodup_iff.mpr hd
  refine ⟨?read, ?unreadable, hs, ?rootScript, ?classScript, ?stateArray, ?mainScript,
    ?clientScript, ?onlyClient, ?ownFile⟩
  case read =>
    intro part f hm
    have ⟨path, _, hr⟩ := List.mem_map.mp (mem_readable.mp (filesOf_read _ part ▸ hm))
    rw [path_of_readAt_ok hr, hr]
  case unreadable =>
    intro f hm
    have ⟨path, _, hr⟩ := List.mem_map.mp (mem_failed.mp hm)
    rw [path_of_readAt_error hr, hr]
  case rootScript =>
    intro name hn he
    have ⟨part, hm, hp⟩ := exists_part_of_rootScript classes hf hn he
    exact count_pathsOf hd hp hm (by decide)
  case classScript =>
    intro name hn he
    exact count_pathsOf hd (mem_stateClasses_of_has hl hc hn he) List.mem_cons_self (by decide)
  case stateArray => exact takes_read .stateArray rfl fun _ => FileSystem.find?_names_eq hf
  case mainScript => exact takes_read .mainScript rfl fun _ => mainScript_eq_some hf classes
  case clientScript => exact takes_read .clientScript rfl fun _ => FileSystem.find?_names hf
  case onlyClient =>
    intro path hm hj
    have ⟨part, _, hp⟩ := List.mem_flatMap.mp ((perm_pathsOf_all _).mem_iff.mp hm)
    obtain he | rfl := endsWith_php_of_mem hf hp
    case inl => exact absurd hj (not_endsWith_js he)
    case inr => exact (FileSystem.find?_names hf).mp (Option.mem_toList.mp hp)
  case ownFile =>
    intro d hm hk
    have ⟨f, hf, hd⟩ := (Model.mem_states_of_stateClass hk).mp hm
    have hp := hs.sublist (pathsOf_sublist (by decide : [Part.stateClasses].Sublist Part.all))
    have hp := (List.nodup_append.mp hp).left
    rw [List.flatMap_singleton] at hp
    refine ⟨f, hf, hd, ?_⟩
    rw [(StateClass.state?_eq_some hd).right.left]
    exact stateClass?_of_mem hp hf

def doubledFiles : FileSystem where
  list path :=
    if path = "g" then
      .ok [⟨"Game.php", .file⟩, ⟨"f.min.js", .file⟩, ⟨"g.game.php", .file⟩, ⟨"g.js", .file⟩,
        ⟨"modules", .directory⟩]
    else if path = "g/modules/php/States" then .ok [⟨"Turn.php", .file⟩]
    else .error .notFound
  read path :=
    if path = "g/Game.php" then .error .notFound
    else if path = "g/modules/php/States/Turn.php" then
      .ok "class Turn extends GameState \x7b id: 2, type: StateType::GAME \x7d".toUTF8.toList
    else .ok []
  isDirectory path := path = "g" || path = "g/modules/php/States"
  isFile _ := true

theorem lawful_doubledFiles : doubledFiles.Lawful := by
  have hl : ∀ {path entries}, doubledFiles.list path = .ok entries →
      doubledFiles.isDirectory path ∧ (entries.map (·.name)).Nodup ∧
        ∀ e ∈ entries, '/' ∉ e.name.toList := by
    intro path entries h
    simp only [doubledFiles] at h ⊢
    split at h
    case isTrue hp => simp [← Except.ok.inj h, hp]
    case isFalse =>
      split at h
      case isTrue hp => simp [← Except.ok.inj h, hp]
      case isFalse => cases h
  exact ⟨fun h => (hl h).left, fun h => (hl h).right.left, fun h => (hl h).right.right⟩

def doubledSources : Sources where
  stateArray := none
  stateClasses :=
    [⟨"modules/php/States/Turn.php",
    "class Turn extends GameState \x7b id: 2, type: StateType::GAME \x7d"⟩]
  classDirectory := some "modules/php/States/"
  clientScript := some ⟨"g.js", ""⟩
  mainScript := none
  serverScripts := [⟨"g.game.php", ""⟩]
  unreadable := [⟨"Game.php", FileError.notFound.message⟩]

theorem doubledSources_assigned :
    load doubledFiles "g" = .ok doubledSources ∧ doubledSources.Assigned doubledFiles "g" := by
  have hs : ["Game.php", "f.min.js", "g.game.php", "g.js"].Pairwise fun a b : String =>
    decide (a ≤ b) := by simp
  have hn : doubledFiles.names .file "g" = .ok ["Game.php", "f.min.js", "g.game.php", "g.js"] :=
    congrArg Except.ok (List.mergeSort_of_pairwise hs)
  have h : load doubledFiles "g" = .ok doubledSources := by
    rw [load_eq lawful_doubledFiles, hn]
    decide +kernel
  exact ⟨h, load_assigned lawful_doubledFiles h⟩

end StateLint.Sources
