import StateLint.Project
import StateLint.Proofs.FileSystem.Listing
import StateLint.Proofs.FileSystem.Path
import StateLint.Proofs.Text.ByteOrder

namespace StateLint

namespace FileTree

variable {root : FileTree} {working : List String} {path name : String}

def HasDirectory (root : FileTree) (working : List String) (path name : String) : Prop :=
  ∃ entries below, fileSystem.entry root working path = .ok (directory entries) ∧
    (.text name, directory below) ∈ entries

theorem has_directory_iff :
    (root.fileSystem working).Has .directory path name ↔ root.HasDirectory working path name := by
  simp only [FileSystem.Has, HasDirectory, list_eq_ok]
  constructor
  case mp =>
    rintro ⟨_, ⟨entries, he, rfl⟩, hm⟩
    obtain ⟨t, ht, hk⟩ := mem_listing.mp hm
    cases t <;> cases hk
    case directory below => exact ⟨entries, below, he, ht⟩
  case mpr =>
    rintro ⟨entries, below, he, hm⟩
    exact ⟨_, ⟨entries, he, rfl⟩, mem_listing.mpr ⟨_, hm, rfl⟩⟩

theorem WellFormed.properName (h : root.WellFormed) (hd : root.HasDirectory working path name) :
    ProperName name := by
  obtain ⟨entries, below, he, hm⟩ := hd
  cases h.entry he
  case directory _ hs _ => exact hs _ hm name rfl

theorem exists_list_iff : (∃ listed, (root.fileSystem working).list path = .ok listed) ↔
    (root.fileSystem working).isDirectory path := by
  simp only [isDirectory_iff, list_eq_ok]
  constructor
  case mp => exact fun ⟨_, entries, he, _⟩ => ⟨entries, he⟩
  case mpr => exact fun ⟨entries, he⟩ => ⟨_, entries, he, rfl⟩

end FileTree

variable {fs : FileSystem} {workspace game : String} {names : List String}

theorem games_eq_ok :
    games fs workspace = .ok names ↔ ∃ all, fs.names .directory workspace = .ok all ∧
    names = all.filter fun name => (GameTags.ofDirectory fs (Path.join workspace name)).isGame := by
  unfold games
  cases fs.names .directory workspace <;> simp [bind, Except.bind, pure, Except.pure, eq_comm]

theorem exists_games_iff :
    (∃ names, games fs workspace = .ok names) ↔ ∃ listed, fs.list workspace = .ok listed := by
  unfold games FileSystem.names
  cases fs.list workspace <;> simp [bind, Except.bind, pure, Except.pure]

theorem mem_games (h : games fs workspace = .ok names) : game ∈ names ↔
    fs.Has .directory workspace game ∧
      (GameTags.ofDirectory fs (Path.join workspace game)).isGame := by
  obtain ⟨all, ha, rfl⟩ := games_eq_ok.mp h
  rw [List.mem_filter, FileSystem.mem_names ha]

theorem ascending_games (hl : fs.Lawful) (h : games fs workspace = .ok names) :
    names.Pairwise fun a b => Text.Utf8.bytes a < Text.Utf8.bytes b := by
  obtain ⟨all, ha, rfl⟩ := games_eq_ok.mp h
  refine List.Pairwise.filter _ (((FileSystem.sorted_names ha).and (hl.nodup_names ha)).imp ?_)
  rintro a b ⟨hle, hne⟩
  exact Text.Utf8.bytes_lt (Decidable.byContradiction fun hn =>
    hne (String.le_antisymm hle (String.not_lt.mp hn)))

-- A directory without files has no marks but that of the state classes below it.
theorem GameTags.isDirectory_of_isGame {path : String} (hl : fs.Lawful)
    (hb : fs.isDirectory (Path.join path stateClassDirectory) → fs.isDirectory path)
    (h : (ofDirectory fs path).isGame) : fs.isDirectory path := by
  cases hf : fs.names .file path with
  | ok files =>
    obtain ⟨listed, hd, -⟩ := FileSystem.exists_list_of_names hf
    exact hl.isDirectory hd
  | error e =>
    refine hb ?_
    simpa [isGame, ofDirectory, hf, Except.toOption] using h

namespace Project

-- The ways to choose a project agree on a workspace that has the named directories in it.
structure SelectionsAgree (fs : FileSystem) (workspace : String) (directories : String → Prop) :
    Prop where
  -- The games are those directories that have a mark of one, in ascending order and without
  -- repetition.
  listed    : (∃ names, games fs workspace = .ok names) ↔ fs.isDirectory workspace
  ascending : ∀ names, games fs workspace = .ok names →
    names.Pairwise fun a b => Text.Utf8.bytes a < Text.Utf8.bytes b
  mem_iff   : ∀ names, games fs workspace = .ok names → ∀ name, name ∈ names ↔
    directories name ∧ (GameTags.ofDirectory fs (Path.join workspace name)).isGame
  -- A game can be chosen by its name and by its directory.
  byName      : ∀ names, games fs workspace = .ok names → ∀ game ∈ names,
    select fs none (some game) (some workspace) = .ok ⟨game, Path.join workspace game⟩
  byDirectory : ∀ names, games fs workspace = .ok names → ∀ game ∈ names,
    select fs (some (Path.join workspace game)) none none = .ok ⟨game, Path.join workspace game⟩
  -- A game need not be named if and only if there is no other.
  only_iff : (∃ project, select fs none none (some workspace) = .ok project) ↔
    ∃ game, games fs workspace = .ok [game]
  only_eq  : ∀ game, games fs workspace = .ok [game] →
    select fs none none (some workspace) = select fs none (some game) (some workspace)
  -- Where a directory is named, nothing else counts.
  directory_first : ∀ root game workspace game' workspace',
    select fs (some root) game workspace = select fs (some root) game' workspace'

theorem ofWorkspace_eq_ok {project : Project} : ofWorkspace fs workspace = .ok project ↔
    ∃ game, games fs workspace = .ok [game] ∧ project = ⟨game, Path.join workspace game⟩ := by
  unfold ofWorkspace
  cases hg : games fs workspace with
  | error e => simp [Except.mapError, bind, Except.bind]
  | ok names =>
    cases names with
    | nil => simp [Except.mapError, bind, Except.bind, throw, throwThe, MonadExceptOf.throw]
    | cons game rest =>
      cases rest <;>
        simp [Except.mapError, bind, Except.bind, pure, Except.pure, throw, throwThe,
          MonadExceptOf.throw, eq_comm]

theorem ofGame_eq (h : fs.isDirectory (Path.join workspace game)) :
    ofGame fs workspace game = .ok ⟨game, Path.join workspace game⟩ := by
  simp [ofGame, h, pure, Except.pure]

theorem ofDirectory_eq (hn : ProperName game) (h : fs.isDirectory (Path.join workspace game)) :
    ofDirectory fs (Path.join workspace game) = .ok ⟨game, Path.join workspace game⟩ := by
  simp [ofDirectory, h, Path.fileName?_join hn, pure, Except.pure]

theorem selections_agree {root : FileTree} (h : root.WellFormed) (working : List String)
    (workspace : String) :
    SelectionsAgree (root.fileSystem working) workspace (root.HasDirectory working workspace) := by
  have hl := h.lawful working
  have hm {names game} (hg : games (root.fileSystem working) workspace = .ok names) : game ∈ names ↔
      root.HasDirectory working workspace game ∧
        (GameTags.ofDirectory (root.fileSystem working) (Path.join workspace game)).isGame := by
    rw [mem_games hg, FileTree.has_directory_iff]
  have hd {names game} (hg : games (root.fileSystem working) workspace =
    .ok names) (hmem : game ∈ names) :
      ProperName game ∧ (root.fileSystem working).isDirectory (Path.join workspace game) := by
    obtain ⟨hd, ht⟩ := (hm hg).mp hmem
    have hn := h.properName hd
    refine ⟨hn, GameTags.isDirectory_of_isGame hl (FileTree.isDirectory_of_join ?_ rfl) ht⟩
    exact Path.join_ne_empty hn.ne_empty
  exact {
    listed := by rw [exists_games_iff, FileTree.exists_list_iff]
    ascending := fun names hg => ascending_games hl hg
    mem_iff := fun names hg name => hm hg
    byName := fun names hg game hmem => ofGame_eq (hd hg hmem).2
    byDirectory := fun names hg game hmem => ofDirectory_eq (hd hg hmem).1 (hd hg hmem).2
    only_iff := by
      simp only [select, ofWorkspace_eq_ok]
      grind
    only_eq := fun game hg => by
      have hgame := ofGame_eq (hd hg List.mem_cons_self).2
      exact (ofWorkspace_eq_ok.mpr ⟨game, hg, rfl⟩).trans hgame.symm
    directory_first := fun _ _ _ _ _ => rfl
  }

-- A workspace with two games, one of which has its state classes behind a link. A link to a game is
-- no game, and neither is a directory whose name is no text.
def linkedGames : List (EntryName × FileTree) := [
  (.text "reversi", .directory [(.text "modules", .directory [(.text "php", .link "/shared")])]),
  (.text "mirror", .link "reversi"),
  (.bytes [0xff], .directory [(.text "states.inc.php", .file [])]),
  (.text "Chess", .directory [(.text "states.inc.php", .file [])])]

def linkedWorkspace : FileTree :=
  .directory [(.text "work", .directory linkedGames),
    (.text "shared", .directory [(.text "States", .directory [])])]

theorem linkedWorkspace_wellFormed : linkedWorkspace.WellFormed := by
  have hempty : (FileTree.directory []).WellFormed := FileTree.wellFormed_empty
  have harray : (FileTree.directory [(.text "states.inc.php", .file [])]).WellFormed :=
    .directory (by decide) (by simp [EntryName.text?, properName_iff]) (by simpa using .file [])
  have hphp : (FileTree.directory [(.text "php", .link "/shared")]).WellFormed :=
    .directory (by decide) (by simp [EntryName.text?, properName_iff]) (by simpa using .link _)
  have hreversi :
      (FileTree.directory
      [(.text "modules", .directory [(.text "php", .link "/shared")])]).WellFormed :=
    .directory (by decide) (by simp [EntryName.text?, properName_iff]) (by simpa using hphp)
  have hmirror : (FileTree.link "reversi").WellFormed := .link _
  have hgames : (FileTree.directory linkedGames).WellFormed :=
    .directory (by decide) (by simp [linkedGames, EntryName.text?, properName_iff])
      (by simp [linkedGames, hreversi, hmirror, harray])
  have hshared : (FileTree.directory [(.text "States", .directory [])]).WellFormed :=
    .directory (by decide) (by simp [EntryName.text?, properName_iff]) (by simpa using hempty)
  exact .directory (by decide) (by simp [EntryName.text?, properName_iff])
    (by simp [hgames, hshared])

theorem linkedWorkspace_agree : linkedWorkspace.WellFormed ∧
    ∃ names, games (linkedWorkspace.fileSystem ["work"]) "." = .ok names ∧ "reversi" ∈ names ∧
      "mirror" ∉ names ∧
      select (linkedWorkspace.fileSystem ["work"]) (some "./reversi") none none =
        .ok ⟨"reversi", "./reversi"⟩ := by
  have h := selections_agree linkedWorkspace_wellFormed ["work"] "."
  have hr : Path.join "." "reversi" = "./reversi" := by decide
  have hc : Path.join "./reversi" stateClassDirectory = "./reversi/modules/php/States" := by decide
  have hw : FileTree.fileSystem.entry linkedWorkspace ["work"] "." =
      .ok (.directory linkedGames) := by
    simp +decide [FileTree.fileSystem.entry, FileTree.resolve, linkedWorkspace, FileTree.ancestors,
      FileTree.child?, Path.parts, FileTree.follow, pure, Except.pure]
  have hs : FileTree.fileSystem.entry linkedWorkspace ["work"] "./reversi/modules/php/States" =
      .ok (.directory []) := by
    simp +decide [FileTree.fileSystem.entry, FileTree.resolve, linkedWorkspace, linkedGames,
      FileTree.ancestors, FileTree.child?, Path.parts, FileTree.follow, pure, Except.pure]
  have htag : (GameTags.ofDirectory (linkedWorkspace.fileSystem ["work"])
      (Path.join "." "reversi")).isGame := by
    rw [hr, GameTags.isGame, GameTags.ofDirectory, hc, FileTree.isDirectory_iff.mpr ⟨_, hs⟩,
      Bool.or_true]
  obtain ⟨names, hn⟩ := h.listed.mpr (FileTree.isDirectory_iff.mpr ⟨_, hw⟩)
  have hm : "reversi" ∈ names := (h.mem_iff names hn _).mpr ⟨⟨_, _, hw, List.mem_cons_self⟩, htag⟩
  refine ⟨linkedWorkspace_wellFormed, names, hn, hm, fun hm => ?_, hr ▸ h.byDirectory names hn _ hm⟩
  obtain ⟨⟨entries, below, he, hb⟩, -⟩ := (h.mem_iff names hn _).mp hm
  obtain rfl : linkedGames = entries := FileTree.directory.inj (Except.ok.inj (hw.symm.trans he))
  simp [linkedGames] at hb

end Project
end StateLint
