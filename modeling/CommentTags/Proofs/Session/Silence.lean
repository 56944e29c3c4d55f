import CommentTags.Proofs.Session.Logging

/-!
Thresholds of the console that are refused. The old handler is gone by then, so the console shows
nothing until a threshold is set that there is, and from then on it shows what it would have shown
anyway. The log file is not concerned.
-/

namespace CommentTags

namespace LogAction

def wanted? : LogAction → Option Text
  | .setConsoleLevel name => some name
  | .write .. => none

def LastRefused (actions : List LogAction) : Prop :=
  ∃ name e, (actions.filterMap wanted?).getLast? = some name ∧ Level.ofAnyCase name = .error e

theorem not_lastRefused_nil : ¬ LastRefused [] := by
  rintro ⟨name, e, h, -⟩
  cases h

theorem lastRefused_append_write (actions : List LogAction) (level : Except LevelError Level)
    (line : LogLine) : LastRefused (actions ++ [.write level line]) ↔ LastRefused actions := by
  simp [LastRefused, wanted?]

theorem lastRefused_append_setConsoleLevel (actions : List LogAction) (name : Text) :
    LastRefused (actions ++ [.setConsoleLevel name]) ↔ ∃ e, Level.ofAnyCase name = .error e := by
  simp [LastRefused, wanted?]

end LogAction

namespace Outlets

def silenced (o : Outlets) : Outlets := { o with console := none }

theorem file_after (o : Outlets) (actions : List LogAction) : (o.after actions).file = o.file := by
  induction actions generalizing o with
  | nil => rfl
  | cons action actions ih => rw [after_cons, ih, file_act]

theorem outlets_act_write (o : Outlets) (level : Except LevelError Level) (line : LogLine) :
    (o.act (.write level line)).outlets = o := by
  cases hopen : o.isClosed <;> cases level <;> simp [act, hopen]

theorem shown_act_of_silent {o : Outlets} (h : o.console = none) (action : LogAction) :
    (o.act action).shown = [] := by
  cases action with
  | setConsoleLevel name => exact (o.act_setConsoleLevel_quiet name).1
  | write level line =>
    cases hopen : o.isClosed <;> cases level <;> simp [act, hopen, shows, h]

theorem kept_act_of_no_file {o : Outlets} (h : o.file = none) (action : LogAction) :
    (o.act action).kept = [] := by
  cases action with
  | setConsoleLevel name => exact (o.act_setConsoleLevel_quiet name).2
  | write level line =>
    cases hopen : o.isClosed <;> cases level <;> simp [act, hopen, keeps, h]

theorem kept_act_silenced (o : Outlets) (action : LogAction) :
    (o.silenced.act action).kept = (o.act action).kept := by
  cases hfile : o.file with
  | some path => rw [kept_act (o := o.silenced) hfile, kept_act hfile]
  | none => rw [kept_act_of_no_file (o := o.silenced) hfile, kept_act_of_no_file hfile]

theorem after_silenced (o : Outlets) (later : List LogAction) :
    o.silenced.after later =
      if later.any (·.level?.isSome) then o.after later else (o.after later).silenced := by
  induction later generalizing o with
  | nil => rfl
  | cons action later ih =>
    rw [after_cons, after_cons]
    cases action with
    | write level line =>
      rw [outlets_act_write, outlets_act_write]
      exact ih o
    | setConsoleLevel name =>
      cases hname : Level.ofAnyCase name with
      | ok least =>
        have hset : (LogAction.setConsoleLevel name).level? = some least := by
          rw [LogAction.level?, hname]
          rfl
        rw [act_setConsoleLevel_of_ok _ hname, act_setConsoleLevel_of_ok _ hname, List.any_cons,
          hset]
        rfl
      | error e =>
        have hset : (LogAction.setConsoleLevel name).level? = none := by
          rw [LogAction.level?, hname]
          rfl
        rw [act_setConsoleLevel_of_error _ hname, act_setConsoleLevel_of_error _ hname,
          List.any_cons, hset]
        exact ih o.silenced

theorem shown_after_silenced (o : Outlets) (later : List LogAction) (action : LogAction) :
    ((o.silenced.after later).act action).shown =
      if later.any (·.level?.isSome) then ((o.after later).act action).shown else [] := by
  rw [after_silenced]
  split
  · rfl
  · exact shown_act_of_silent rfl action

theorem kept_after_silenced (o : Outlets) (later : List LogAction) (action : LogAction) :
    ((o.silenced.after later).act action).kept = ((o.after later).act action).kept := by
  rw [after_silenced]
  split
  · rfl
  · exact kept_act_silenced (o.after later) action

theorem after_append_refused (o : Outlets) (earlier later : List LogAction) {name : Text}
    {e : LevelError} (hname : Level.ofAnyCase name = .error e) :
    o.after (earlier ++ .setConsoleLevel name :: later) =
      (o.after earlier).silenced.after later := by
  rw [after_append, after_cons, act_setConsoleLevel_of_error _ hname]
  rfl

theorem console_after_eq_none_iff {o : Outlets} {start : Level} (h : o.console = some start)
    (actions : List LogAction) :
    (o.after actions).console = none ↔ LogAction.LastRefused actions := by
  induction actions using List.reverseRecOn with
  | nil => simp [after, h, LogAction.not_lastRefused_nil]
  | append_singleton actions action ih =>
    rw [after_append, after_cons]
    cases action with
    | write level line =>
      rw [outlets_act_write, LogAction.lastRefused_append_write]
      exact ih
    | setConsoleLevel name =>
      rw [LogAction.lastRefused_append_setConsoleLevel]
      cases hname : Level.ofAnyCase name with
      | ok least =>
        rw [act_setConsoleLevel_of_ok _ hname]
        simp [after]
      | error e =>
        rw [act_setConsoleLevel_of_error _ hname]
        simp [after]

theorem console_eq_none_of_shown_nil {o : Outlets}
    (h : ∀ action, (o.act action).shown = []) : o.console = none := by
  cases hconsole : o.console with
  | none => rfl
  | some least =>
    let line : LogLine := { level := [], time := 0, message := [], process := 0, source := none }
    have hnothing := h (.write (.ok least) line)
    rw [shown_act hconsole] at hnothing
    simp [LogAction.reaching, LogAction.entry?] at hnothing

end Outlets

namespace Handlers

def after (hs : Handlers) (actions : List LogAction) : Handlers :=
  actions.foldl (fun hs action => (hs.act action).1) hs

theorem Realizes.after {hs : Handlers} {o : Outlets} {number other : ℕ}
    (h : hs.Realizes o number other) (actions : List LogAction) :
    ∃ number', (hs.after actions).Realizes (o.after actions) number' other := by
  induction actions generalizing hs o number with
  | nil => exact ⟨number, h⟩
  | cons action actions ih =>
    obtain ⟨⟨number', hnext⟩, -, -⟩ := h.act action
    exact ih hnext

end Handlers

/-- A threshold that is refused silences the console: of what is logged later, nothing is shown
until a threshold is set that there is, and from then on the same as if the refused one had not been
asked for. So it makes no difference to the console only where the console was silent already. The
log file takes the same in any case, and the handlers do just this. -/
theorem Outlets.after_refused {env : Environment} {o : Outlets}
    (hstart : ofEnvironment env = .ok o) (earlier : List LogAction) {name : Text} {e : LevelError}
    (hname : Level.ofAnyCase name = .error e) :
    let refused := fun later => o.after (earlier ++ .setConsoleLevel name :: later)
    let spared := fun later => o.after (earlier ++ later)
    ((o.after earlier).act (.setConsoleLevel name)).refusal = some e ∧
      (∀ later action, ((refused later).act action).shown =
        if later.any (·.level?.isSome) then ((spared later).act action).shown else []) ∧
      (∀ later action, ((refused later).act action).kept = ((spared later).act action).kept) ∧
      ((∀ later action, ((refused later).act action).shown = ((spared later).act action).shown) ↔
        LogAction.LastRefused earlier) ∧
      ∃ hs, Handlers.ofEnvironment env = .ok hs ∧ ∀ actions action,
        Handlers.Agree ((hs.after actions).act action).2.1 o.file
          ((o.after actions).act action).shown ((o.after actions).act action).kept ∧
        ((hs.after actions).act action).2.2 = ((o.after actions).act action).refusal := by
  intro refused spared
  obtain ⟨start, -, hconsole⟩ := console_of_ofEnvironment hstart
  have hrefused : ∀ later, refused later = (o.after earlier).silenced.after later :=
    fun later => o.after_append_refused earlier later hname
  have hspared : ∀ later, spared later = (o.after earlier).after later :=
    fun later => o.after_append earlier later
  simp only [hrefused, hspared]
  refine ⟨?_, shown_after_silenced _, kept_after_silenced _, ?_, ?_⟩
  · rw [act_setConsoleLevel_of_error _ hname]
  · rw [← console_after_eq_none_iff hconsole]
    constructor
    · intro hsame
      apply console_eq_none_of_shown_nil
      intro action
      have hnothing := hsame [] action
      rw [shown_after_silenced] at hnothing
      exact hnothing.symm
    · intro hsilent later action
      have hidle : (o.after earlier).silenced = o.after earlier := by
        rw [silenced, ← hsilent]
      rw [hidle]
  · obtain ⟨hs, number, other, hhandlers, hrealizes⟩ := Handlers.exists_of_ofEnvironment hstart
    refine ⟨hs, hhandlers, fun actions action => ?_⟩
    obtain ⟨number', hnow⟩ := hrealizes.after actions
    have hact := (hnow.act action).2
    rwa [file_after] at hact

def bogusName : Text := "bogus".toList

theorem ofAnyCase_bogusName : Level.ofAnyCase bogusName = .error (.unknown "BOGUS".toList) := by
  decide +kernel

theorem Outlets.after_refused_loggedSession :
    let o := loggedSession.outlets
    ofEnvironment loggedSession.env = .ok o ∧
      Level.ofAnyCase bogusName = .error (.unknown "BOGUS".toList) ∧
      (∀ action, ((o.after [.setConsoleLevel bogusName]).act action).shown = []) ∧
      (∀ action, ((o.after [.setConsoleLevel bogusName, .setConsoleLevel "error".toList]).act
          action).shown =
        ((o.after [.setConsoleLevel "error".toList]).act action).shown) ∧
      ¬ ∀ later action, ((o.after (.setConsoleLevel bogusName :: later)).act action).shown =
        ((o.after later).act action).shown := by
  intro o
  have hstart : ofEnvironment loggedSession.env = .ok o := by decide +kernel
  have hset : (LogAction.setConsoleLevel "error".toList).level?.isSome = true := by decide +kernel
  obtain ⟨-, hshown, -, hsame, -⟩ := after_refused hstart [] ofAnyCase_bogusName
  refine ⟨hstart, ofAnyCase_bogusName, hshown [], fun action => ?_, fun h => ?_⟩
  · have hback := hshown [.setConsoleLevel "error".toList] action
    rwa [List.any_cons, hset] at hback
  · exact LogAction.not_lastRefused_nil (hsame.mp h)

theorem shown_behind_bogusName :
    let o : Outlets := { console := some .warning }
    let boom : LogAction := .write (.ok .error)
      { level := [], time := 0, message := "boom".toList, process := 0, source := none }
    Outlets.ofEnvironment [] = .ok o ∧
      (o.act (.setConsoleLevel bogusName)).refusal = some (.unknown "BOGUS".toList) ∧
      ((o.after [.setConsoleLevel bogusName]).act boom).shown.map LogLine.message = [] ∧
      ((o.after []).act boom).shown.map LogLine.message = ["boom".toList] := by
  intro o boom
  refine ⟨by decide +kernel, ?_, ?_, by decide⟩
  · rw [Outlets.act_setConsoleLevel_of_error o ofAnyCase_bogusName]
  · rw [Outlets.after_cons, Outlets.act_setConsoleLevel_of_error o ofAnyCase_bogusName]
    rfl

end CommentTags
