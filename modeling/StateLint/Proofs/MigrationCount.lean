import StateLint.Proofs.FirstOccurrence
import StateLint.Proofs.Migration
import StateLint.Proofs.Text.Count

namespace StateLint

open Text Reader Pattern

namespace ClientScript

def namedActions (text : String) : List String :=
  (actionCall.anywhere.places text.toList).eraseDups

def subscribed (text : String) : List String :=
  (subscription.anywhere.places text.toList).eraseDups

theorem namedActions_prefix (text : String) : namedActions text <+: calledActions text := by
  rw [calledActions, List.eraseDups_append]
  exact List.prefix_append _ _

theorem subscribed_subset (text : String) : subscribed text ⊆ handledNotifications text := by
  intro n hn
  rw [handledNotifications, List.mem_eraseDups, List.mem_append, List.mem_append]
  exact .inl (.inr (List.mem_eraseDups.mp hn))

end ClientScript

namespace Migration

open MigrationNotes

variable {name text : String} {s : List Char} {f : SourceFile} {settings : Settings}
  {sources : Sources}

theorem callOf_isSome :
    (callOf name s).isSome ↔ ∃ b t, (∀ c ∈ b, isBlank c) ∧ s = name.toList ++ (b ++ '(' :: t) := by
  constructor
  case mp =>
    intro h
    have ⟨_, h⟩ := Option.isSome_iff_exists.mp h
    have ⟨_, s₁, h₁, h⟩ := bind_eq_some.mp h
    have ⟨_, s₂, h₂, h₃⟩ := bind_eq_some.mp h
    have ⟨b, hb, hs⟩ := blanks_eq_some h₂
    exact ⟨b, _, hb, by rw [literal_eq_some.mp h₁, hs, literal_eq_some.mp h₃]; rfl⟩
  case mpr =>
    intro ⟨b, t, hb, hs⟩
    have hp : ∀ c ∈ ('(' :: t).head?, isBlank c = false := by simp [isBlank]
    have hr : callOf name (name.toList ++ (b ++ '(' :: t)) = some ((), t) :=
      bind_eq_some.mpr ⟨_, _, literal_append name _,
        bind_eq_some.mpr ⟨_, _, blanks_append hb hp, literal_append "(" t⟩⟩
    rw [hs, hr]
    rfl

theorem callOf_extends (name : String) : (callOf name).Extends := by
  intro s u h
  have ⟨b, t, hb, hs⟩ := callOf_isSome.mp h
  exact callOf_isSome.mpr ⟨b, t ++ u, hb, by simp [hs]⟩

theorem callOf_of_guardCall (h : ServerScript.guardCall.anywhere.occursIn s) :
    (callOf "checkAction").anywhere.occursIn s := by
  have ⟨x, hx⟩ := Option.isSome_iff_exists.mp h
  have ⟨_, t, ht, hr⟩ := find?_go_eq_some hx
  have ⟨_, u, hu, hc⟩ := bind_eq_some.mp hr
  have leaves : u <:+ t := by
    refine LeavesEnd.orElse (literal_leavesEnd _) ?_ hu
    exact (literal_leavesEnd _).bind fun _ => blanks_leavesEnd.bind fun _ =>
      (literal_leavesEnd _).bind fun _ =>
      blanks_leavesEnd
  have hc : (callOf "checkAction" u).isSome := Option.isSome_iff_exists.mpr ⟨_, hc⟩
  refine occursIn_anywhere (leaves.trans ht) ?_ hc
  rintro rfl
  have ⟨_, _, _, hn⟩ := callOf_isSome.mp hc
  simp at hn

theorem callOf_of_actionCall (h : (ClientScript.actionCall s).isSome) :
    (callOf "bgaPerformAction" s).isSome := by
  have ⟨_, h⟩ := Option.isSome_iff_exists.mp h
  have ⟨_, _, h₁, h⟩ := bind_eq_some.mp h
  have ⟨_, _, h₂, h⟩ := bind_eq_some.mp h
  have ⟨_, _, h₃, _⟩ := bind_eq_some.mp h
  exact Option.isSome_iff_exists.mpr ⟨_,
    bind_eq_some.mpr ⟨_, _, h₁, bind_eq_some.mpr ⟨_, _, h₂, h₃⟩⟩⟩

theorem literal_of_subscription (h : (ClientScript.subscription s).isSome) :
    (literal "notifqueue.subscribe" s).isSome := by
  have ⟨_, h⟩ := Option.isSome_iff_exists.mp h
  have ⟨_, _, h₁, _⟩ := bind_eq_some.mp h
  exact Option.isSome_iff_exists.mpr ⟨_, h₁⟩

-- The functions that check an action have bodies of their own, so there are as many checks at
-- least.
theorem length_guarded_le (text : String) :
    ((ServerScript.playerActions text).filter (·.guarded)).length ≤
      occurrences (callOf "checkAction") text := by
  calc ((ServerScript.playerActions text).filter (·.guarded)).length
    _ ≤ ((ServerScript.functions text).filter (·.guarded)).length :=
      (((eraseDupsBy_sublist _ _).trans List.filter_sublist).filter _).length_le
    _ = ((ServerScript.functionHead.anywhere.cut text.toList).filter fun x =>
          ServerScript.guardCall.anywhere.occursIn x.2).length := by
      rw [ServerScript.functions, List.filter_map, List.length_map]
      rfl
    _ ≤ ((ServerScript.functionHead.anywhere.cut text.toList).filter fun x =>
          (callOf "checkAction").anywhere.occursIn x.2).length :=
      (List.monotone_filter_right _ fun _ => callOf_of_guardCall).length_le
    _ ≤ occurrences (callOf "checkAction") text := length_filter_cut_le (callOf_extends _) _ _

theorem length_namedActions_le (text : String) :
    (ClientScript.namedActions text).length ≤ occurrences (callOf "bgaPerformAction") text :=
  Nat.le_trans (length_eraseDups_le _) (countPlaces_le (fun _ => callOf_of_actionCall) _)

theorem length_subscribed_le (text : String) :
    (ClientScript.subscribed text).length ≤ occurrences (literal "notifqueue.subscribe") text :=
  Nat.le_trans (length_eraseDups_le _) (countPlaces_le (fun _ => literal_of_subscription) _)

def checkNote (f : SourceFile) : String :=
  let checks := occurrences (callOf "checkAction") f.text
  s!"`{f.fileName}` contains {checks} `checkAction()` call(s). " ++
    "Move actions into State classes with `#[PossibleAction]`."

theorem checkNote_mem (hf : f ∈ sources.mainScript)
    (hc : 0 < occurrences (callOf "checkAction") f.text) :
    checkNote f ∈ (ofSources settings sources).pending := by
  have hf : sources.mainScript = some f := hf
  have first : checkNote f ∈ (mainScriptNotes f).pending := by
    simp only [mainScriptNotes, pending_append, ifAny, gt_iff_lt, hc, if_true, pending_pendingNote]
    exact List.mem_append_left
      _ (List.mem_append_left _ (List.mem_append_left _ (List.mem_singleton_self _)))
  simp only [ofSources, notes, hf, Option.map_some, Option.getD_some, pending_append,
    List.mem_append]
  exact .inl (.inl (.inr first))

theorem not_fullyMigrated_of_check (hf : f ∈ sources.mainScript)
    (hc : 0 < occurrences (callOf "checkAction") f.text) :
    (ofSources settings sources).status ≠ .fullyMigrated :=
  fun h => ((fullyMigrated_iff.mp h).right.left f hf).noChecks (countPlaces_pos.mp hc)

theorem not_fullyMigrated_of_subscription (hf : f ∈ sources.clientScript)
    (hc : 0 < occurrences (literal "notifqueue.subscribe") f.text) :
    (ofSources settings sources).status ≠ .fullyMigrated :=
  fun h => ((fullyMigrated_iff.mp h).right.right f hf).noSubscriptions (countPlaces_pos.mp hc)

-- A report counts at least as many checks of actions as functions are listed as guarded, as many
-- calls as actions are called by name, and as many registrations as notifications are registered by
-- themselves. So wherever a guarded function is listed, the checks are noted, and neither with one
-- nor with such a registration is a game fully migrated.
theorem scans_counted (settings : Settings) (sources : Sources) :
    (∀ main ∈ sources.mainScript,
      ((ServerScript.playerActions main.text).filter (·.guarded)).length ≤
        occurrences (callOf "checkAction") main.text ∧
        ∀ a ∈ ServerScript.playerActions main.text, a.guarded →
          checkNote main ∈ (ofSources settings sources).pending ∧
            (ofSources settings sources).status ≠ .fullyMigrated) ∧
      ∀ client ∈ sources.clientScript,
        (ClientScript.namedActions client.text <+: ClientScript.calledActions client.text ∧
          (ClientScript.namedActions client.text).length ≤
            occurrences (callOf "bgaPerformAction") client.text) ∧
        (ClientScript.subscribed client.text ⊆ ClientScript.handledNotifications client.text ∧
          (ClientScript.subscribed client.text).length ≤
            occurrences (literal "notifqueue.subscribe") client.text) ∧
        (ClientScript.subscribed client.text ≠ [] →
          (ofSources settings sources).status ≠ .fullyMigrated) := by
  refine ⟨fun main hm => ⟨length_guarded_le _, fun a ha hg => ?_⟩, fun client hc =>
    ⟨⟨ClientScript.namedActions_prefix _, length_namedActions_le _⟩,
      ⟨ClientScript.subscribed_subset _, length_subscribed_le _⟩, fun hn => ?_⟩⟩
  · have listed : a ∈ (ServerScript.playerActions main.text).filter (·.guarded) :=
      List.mem_filter.mpr ⟨ha, hg⟩
    have counted := Nat.lt_of_lt_of_le (List.length_pos_of_mem listed) (length_guarded_le _)
    exact ⟨checkNote_mem hm counted, not_fullyMigrated_of_check hm counted⟩
  · have counted := Nat.lt_of_lt_of_le (List.length_pos_iff.mpr hn) (length_subscribed_le _)
    exact not_fullyMigrated_of_subscription hc counted

def guardedGame : Sources :=
  { Sources.empty with
    mainScript := some ⟨"Game.php", "function pass() \x7b self::checkAction('pass'); \x7d"⟩
    clientScript := some ⟨"a.js", "bgaPerformAction('pass') notifqueue.subscribe('moved')"⟩ }

theorem guardedGame_counted :
    ∃ main client a, guardedGame.mainScript = some main ∧ guardedGame.clientScript = some client ∧
      a ∈ ServerScript.playerActions main.text ∧ a.guarded ∧
        ClientScript.subscribed client.text ≠ [] ∧
      checkNote main ∈ (ofSources .default guardedGame).pending ∧
      (ClientScript.namedActions client.text).length ≤
        occurrences (callOf "bgaPerformAction") client.text ∧
      (ofSources .default guardedGame).status ≠ .fullyMigrated := by
  have ⟨server, client⟩ := scans_counted .default guardedGame
  have listed : (⟨"pass", "", true⟩ : PlayerAction) ∈
      ServerScript.playerActions "function pass() \x7b self::checkAction('pass'); \x7d" := by decide
  have subscribed :
    ClientScript.subscribed "bgaPerformAction('pass') notifqueue.subscribe('moved')" ≠ [] := by
    decide
  have ⟨_, noted⟩ := server _ rfl
  have ⟨⟨_, called⟩, _, status⟩ := client _ rfl
  exact ⟨_, _, _, rfl, rfl, listed, rfl, subscribed, (noted _ listed rfl).left, called,
    status subscribed⟩

end Migration
end StateLint
