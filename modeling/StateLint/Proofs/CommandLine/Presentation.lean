import StateLint.CommandLine.Run
import StateLint.Proofs.Outcome

namespace StateLint.CommandLine

variable {fs : FileSystem} {workspace settings : Option String}

namespace Notice

def isHushed : Notice → Bool
  | status .success _ | status .warning _ | status .info _ => true
  | status .failure _ | reason _ => false

def isReason : Notice → Bool
  | status _ _ => false
  | reason _ => true

theorem isLoud_eq (n : Notice) : n.isLoud = !n.isHushed := by
  cases n
  case status tone _ => cases tone <;> rfl
  case reason => rfl

end Notice

namespace Transcript

variable {s t : Transcript}

@[simp]
theorem failed_append : (s ++ t).failed = (s.failed || t.failed) := rfl

@[simp]
theorem notices_append : (s ++ t).notices = s.notices ++ t.notices := rfl

theorem after_passes {α : Type} {r : Except Failure α} {next : α → Transcript} :
    (after r next).failed = false ↔ ∃ a, r = .ok a ∧ (next a).failed = false := by
  cases r
  case error => simp [after, stopped]
  case ok => simp [after]

-- A run that passes tells no reason. One that fails tells one, at the end.
inductive Closed (t : Transcript) : Prop
  | passed (hf : t.failed = false) (hn : ∀ n ∈ t.notices, n.isReason = false)
  | stopped (told : List Notice) (f : Failure) (hf : t.failed)
      (hn : t.notices = told ++ [.reason f]) (ht : ∀ n ∈ told, n.isReason = false)

namespace Closed

theorem append (hf : s.failed = false) (hn : ∀ n ∈ s.notices, n.isReason = false) :
    t.Closed → (s ++ t).Closed
  | passed hg hm => .passed (by simp [hf, hg]) (by simpa [or_imp, forall_and] using ⟨hn, hm⟩)
  | stopped told f hg hm ht => .stopped (s.notices ++ told) f (by simp [hg]) (by simp [hm])
    (by simpa [or_imp, forall_and] using ⟨hn, ht⟩)

theorem told_append (tone : Tone) (text : String) (h : t.Closed) : (told tone text ++ t).Closed :=
  h.append rfl (by simp [told, Notice.isReason])

theorem after {α : Type} {r : Except Failure α} {next : α → Transcript} (h : ∀ a, (next a).Closed) :
    (after r next).Closed := by
  cases r
  case ok a => exact h a
  case error f => exact .stopped [] f rfl rfl (by simp)

theorem printed (text : String) : (printed text).Closed :=
  .passed rfl (by simp [Transcript.printed])

theorem told (tone : Tone) (text : String) : (told tone text).Closed :=
  .passed rfl (by simp [Transcript.told, Notice.isReason])

end Closed

structure Alike (s t : Transcript) : Prop where
  failed  : s.failed = t.failed
  notices : s.notices = t.notices

namespace Alike

theorem refl (t : Transcript) : t.Alike t :=
  ⟨rfl, rfl⟩

theorem symm (h : s.Alike t) : t.Alike s :=
  ⟨h.failed.symm, h.notices.symm⟩

theorem trans {u : Transcript} (h : s.Alike t) (hu : t.Alike u) : s.Alike u :=
  ⟨h.failed.trans hu.failed, h.notices.trans hu.notices⟩

theorem printed (text text' : String) : (printed text).Alike (printed text') :=
  ⟨rfl, rfl⟩

theorem append {s' t' : Transcript} (hs : s.Alike s') (ht : t.Alike t') :
    (s ++ t).Alike (s' ++ t') where
  failed := by simp [hs.failed, ht.failed]
  notices := by simp [hs.notices, ht.notices]

theorem after {α : Type} {next next' : α → Transcript} (r : Except Failure α)
    (h : ∀ a, (next a).Alike (next' a)) :
    (after r next).Alike (after r next') := by
  cases r
  case ok a => exact h a
  case error f => exact .refl _

end Alike
end Transcript

theorem listGames_closed : (listGames fs workspace).Closed := by
  cases workspace
  case none => exact .stopped [] _ rfl rfl (by simp)
  case some path =>
    simp only [listGames]
    split
    case isTrue =>
      apply Transcript.Closed.after
      rintro (_ | listing)
      case none => exact .told ..
      case some => exact .printed listing
    case isFalse => exact .stopped [] _ rfl rfl (by simp)

namespace Command

theorem run_closed (c : Command) : (c.run fs workspace settings).Closed := by
  cases c
  case validate target format strict =>
    apply Transcript.Closed.after
    intro (project, sources)
    apply Transcript.Closed.told_append
    apply Transcript.Closed.after
    intro o
    -- The report and its verdict come before the run fails.
    refine .append rfl ?_ (.after fun _ => .passed rfl (by simp [Transcript.nothing]))
    simp [Transcript.printed, Transcript.told, Notice.isReason]
  case migrationStatus target format =>
    apply Transcript.Closed.after
    intro (project, sources)
    exact .after fun _ => .printed _
  case states target format =>
    apply Transcript.Closed.after
    intro (project, sources)
    exact .after fun _ => .printed _
  case actions target =>
    apply Transcript.Closed.after
    intro (project, sources)
    exact .after .printed
  case games => exact listGames_closed

def inFormat (f : Format) : Command → Command
  | validate target _ strict => .validate target f strict
  | migrationStatus target _ => .migrationStatus target f
  | states target _ => .states target f
  | actions target => .actions target
  | games => .games

theorem run_inFormat (c : Command) (f : Format) :
    ((c.inFormat f).run fs workspace settings).Alike (c.run fs workspace settings) := by
  cases c
  case validate target format strict =>
    apply Transcript.Alike.after
    intro (project, sources)
    refine .append (.refl _) (.after _ fun o => ?_)
    exact .append (.append (.printed ..) (.refl _)) (.refl _)
  case migrationStatus target format =>
    apply Transcript.Alike.after
    intro (project, sources)
    exact .after _ fun _ => .printed ..
  case states target format =>
    apply Transcript.Alike.after
    intro (project, sources)
    exact .after _ fun _ => .printed ..
  case actions target => exact .refl _
  case games => exact .refl _

end Command

theorem checked_eq_ok {sources : Sources} {o : Outcome} :
    checked fs settings sources = .ok o ↔ ∃ s, Settings.load fs settings = .ok s ∧
      lint s sources = .ok o := by
  unfold checked
  cases Settings.load fs settings <;> simp [bind, Except.bind]

theorem validate_passes {target : Target} {format : Format} {strict : Bool} :
    ((Command.validate target format strict).run fs workspace settings).failed = false ↔
      ∃ project sources s o, target.read fs workspace = .ok (project, sources) ∧
        Settings.load fs settings = .ok s ∧ lint s sources = .ok o ∧ o.errors = 0 ∧
        (strict → o.warnings = 0) := by
  simp only [Command.run, Transcript.after_passes, Transcript.failed_append, Bool.or_eq_false_iff,
    checked_eq_ok, Outcome.verify_eq_ok, Prod.exists]
  constructor
  case mp =>
    rintro ⟨project, sources, hr, -, o, ⟨s, hs, hl⟩, -, -, ⟨he, hw⟩, -⟩
    exact ⟨project, sources, s, o, hr, hs, hl, he, hw⟩
  case mpr =>
    rintro ⟨project, sources, s, o, hr, hs, hl, he, hw⟩
    exact ⟨project, sources, hr, rfl, o, ⟨s, hs, hl⟩, ⟨rfl, rfl⟩, (), ⟨he, hw⟩, rfl⟩

namespace Invocation

variable {i j : Invocation}

def transcript (i : Invocation) (fs : FileSystem) : Transcript :=
  i.command.run fs i.workspace i.settings

-- Two invocations of one command with the same arguments, workspace and settings, whatever the
-- format and the presentation.
structure SameTask (i j : Invocation) : Prop where
  command   : i.command.inFormat .text = j.command.inFormat .text
  workspace : i.workspace = j.workspace
  settings  : i.settings = j.settings

theorem SameTask.transcript (h : i.SameTask j) (fs : FileSystem) :
    (i.transcript fs).Alike (j.transcript fs) := by
  have hi : ((i.command.inFormat .text).run fs i.workspace i.settings).Alike (i.transcript fs) :=
    i.command.run_inFormat _
  have hj : ((j.command.inFormat .text).run fs j.workspace j.settings).Alike (j.transcript fs) :=
    j.command.run_inFormat _
  rw [h.command, h.workspace, h.settings] at hi
  exact hi.symm.trans hj

theorem exitCode_eq_zero : (i.answer fs).exitCode = 0 ↔ (i.transcript fs).failed = false := by
  show (if (i.transcript fs).failed then (1 : UInt32) else 0) = 0 ↔ _
  cases (i.transcript fs).failed <;> decide

end Invocation

namespace Transcript

variable {t : Transcript} {p : Presentation}

def written (p : Presentation) (notices : List Notice) : String :=
  String.join (notices.map (Notice.line (p.color = .always)))

theorem telling_of_not_quiet (h : p.quiet = false) : t.telling p = written p t.notices := by
  rw [telling, written, List.filter_eq_self.mpr (by simp [h])]

theorem telling_of_quiet (h : p.quiet) :
    t.telling p = written p (t.notices.filter (!·.isHushed)) := by
  simp [telling, written, h, Notice.isLoud_eq]

theorem telling_of_failed (hc : t.Closed) (h : t.failed) (p : Presentation) :
    ∃ before, ∃ f : Failure, t.telling p = before ++ s!"Error: {f.message}\n" := by
  cases hc
  case passed hf _ => simp [hf] at h
  case stopped told f _ hn _ =>
    refine ⟨written p (told.filter fun n => n.isLoud || !p.quiet), f, ?_⟩
    simp [telling, hn, written, Notice.isLoud, Notice.line]

end Transcript

variable {inherited : Option String} {arguments others : List String} {i j : Invocation}

theorem run_eq (h : Invocation.ofArguments inherited arguments = .ok i) :
    run fs inherited arguments = i.answer fs := by
  rw [run, h]

-- Of two command lines for one task the runs have the same exit code, and the same output if the
-- format is the same too. A quiet run tells what the other one tells but for the lines of success,
-- of warnings and of information, and either ends with the reason if it fails. The game passes
-- exactly if nothing is wrong with it.
theorem run_presentation_agnostic (fs : FileSystem)
    (hi : Invocation.ofArguments inherited arguments = .ok i)
    (hj : Invocation.ofArguments inherited others = .ok j) (h : i.SameTask j) :
    (run fs inherited arguments).exitCode = (run fs inherited others).exitCode ∧
    (i.command = j.command →
      (run fs inherited arguments).output = (run fs inherited others).output) ∧
    (i.presentation.quiet = false → j.presentation.quiet →
      i.presentation.color = j.presentation.color →
        (run fs inherited arguments).errorOutput =
          Transcript.written i.presentation (i.transcript fs).notices ∧
        (run fs inherited others).errorOutput =
          Transcript.written i.presentation ((i.transcript fs).notices.filter (!·.isHushed))) ∧
    ((run fs inherited arguments).exitCode ≠ 0 →
      ∃ before, ∃ f : Failure,
        (run fs inherited arguments).errorOutput = before ++ s!"Error: {f.message}\n") ∧
    ∀ target format strict, i.command = .validate target format strict →
      ((run fs inherited arguments).exitCode = 0 ↔
        ∃ project sources s o, target.read fs i.workspace = .ok (project, sources) ∧
          Settings.load fs i.settings = .ok s ∧ lint s sources = .ok o ∧ o.errors = 0 ∧
          (strict → o.warnings = 0)) := by
  have ha := h.transcript fs
  rw [run_eq hi, run_eq hj]
  refine ⟨?exit, ?output, ?quiet, ?reason, ?validate⟩
  case exit =>
    show (if (i.transcript fs).failed then (1 : UInt32) else 0) =
      if (j.transcript fs).failed then 1 else 0
    rw [ha.failed]
  case output =>
    intro hc
    show (i.transcript fs).output = (j.transcript fs).output
    rw [Invocation.transcript, Invocation.transcript, hc, h.workspace, h.settings]
  case quiet =>
    intro hq hq' hp
    refine ⟨Transcript.telling_of_not_quiet hq, ?_⟩
    rw [ha.notices, Transcript.written, hp]
    exact Transcript.telling_of_quiet hq'
  case reason =>
    intro hn
    have hf : (i.transcript fs).failed := by simpa using mt Invocation.exitCode_eq_zero.mpr hn
    exact Transcript.telling_of_failed (Command.run_closed _) hf _
  case validate =>
    intro target format strict hc
    rw [Invocation.exitCode_eq_zero, Invocation.transcript, hc, validate_passes]

def turnFiles : FileSystem where
  list path := if path = "g/modules/php/States" then .ok [⟨"Turn.php", .file⟩] else .ok []
  read path :=
    if path = "g/modules/php/States/Turn.php" then
      .ok "class Turn extends GameState \x7b id: 2, type: StateType::GAME \x7d".toUTF8.toList
    else
      .error .notFound
  isDirectory path := path = "g" || path = "g/modules/php/States"
  isFile path := path = "g/modules/php/States/Turn.php"

def strictLine : List String := ["validate", "-p", "g", "--strict"]

theorem quietRun_agnostic :
    (run turnFiles none strictLine).exitCode = (run turnFiles none ("-q" :: strictLine)).exitCode ∧
      (run turnFiles none strictLine).errorOutput =
        "INFO Validating g\n" ++ (run turnFiles none ("-q" :: strictLine)).errorOutput := by
  let target : Target := ⟨some "g", none⟩
  have hi : Invocation.ofArguments none strictLine =
    .ok ⟨.validate target .text true, ⟨0, false, .auto⟩, none, none⟩ := rfl
  have hj : Invocation.ofArguments none ("-q" :: strictLine) =
      .ok ⟨.validate target .text true, ⟨0, true, .auto⟩, none, none⟩ := rfl
  have ⟨hx, _, he, _⟩ := run_presentation_agnostic turnFiles hi hj ⟨rfl, rfl, rfl⟩
  have ⟨hq, hq'⟩ := he rfl rfl rfl
  refine ⟨hx, ?_⟩
  rw [hq, hq']
  decide +kernel

end StateLint.CommandLine
