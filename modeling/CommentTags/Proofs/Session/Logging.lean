import CommentTags.Proofs.Session.LogFile
import Mathlib.Data.List.Induction

namespace CommentTags

namespace LogAction

def entry? : LogAction → Option (Level × LogLine)
  | .write (.ok level) line => some (level, { line with level := level.name })
  | _ => none

def level? : LogAction → Option Level
  | .setConsoleLevel name => (Level.ofAnyCase name).toOption
  | .write .. => none

def lastLevel (start : Level) (actions : List LogAction) : Level :=
  (actions.filterMap level?).getLast?.getD start

def reaching (least : Level) (action : LogAction) : List LogLine :=
  (action.entry?.toList.filter (fun e => least.severity ≤ e.1.severity)).map Prod.snd

def shown (start : Level) (actions : List LogAction) : List LogLine :=
  actions.zipIdx.flatMap (fun (action, i) => action.reaching (lastLevel start (actions.take i)))

def kept (actions : List LogAction) : List LogLine :=
  ((actions.filterMap entry?).filter (fun e => Outlets.fileLevel.severity ≤ e.1.severity)).map
    Prod.snd

end LogAction

namespace Outlets

variable {o : Outlets}

theorem shown_act {least : Level} (h : o.console = some least) (action : LogAction) :
    (o.act action).shown = action.reaching least := by
  have hopen : o.isClosed = false := by simp [isClosed, h]
  cases action with
  | setConsoleLevel name =>
    unfold act
    dsimp only
    split <;> rfl
  | write level line =>
    cases level with
    | error e => simp [act, hopen, LogAction.reaching, LogAction.entry?]
    | ok level =>
      by_cases hlevel : least.severity ≤ level.severity <;>
        simp [act, hopen, shows, h, LogAction.reaching, LogAction.entry?, hlevel]

theorem kept_act {path : Text} (h : o.file = some path) (action : LogAction) :
    (o.act action).kept = action.reaching fileLevel := by
  have hopen : o.isClosed = false := by simp [isClosed, h]
  cases action with
  | setConsoleLevel name =>
    unfold act
    dsimp only
    split <;> rfl
  | write level line =>
    cases level with
    | error e => simp [act, hopen, LogAction.reaching, LogAction.entry?]
    | ok level =>
      by_cases hlevel : fileLevel.severity ≤ level.severity <;>
        simp [act, hopen, keeps, h, LogAction.reaching, LogAction.entry?, hlevel]

def after (o : Outlets) (actions : List LogAction) : Outlets :=
  actions.foldl (fun o action => (o.act action).outlets) o

theorem after_append (o : Outlets) (earlier later : List LogAction) :
    o.after (earlier ++ later) = (o.after earlier).after later := List.foldl_append

theorem after_cons (o : Outlets) (action : LogAction) (later : List LogAction) :
    o.after (action :: later) = (o.act action).outlets.after later := rfl

theorem console_of_ofEnvironment {env : Environment} (h : ofEnvironment env = .ok o) :
    ∃ start, Level.ofAnyCase ((env.lookup levelVariable).getD "WARNING".toList) = .ok start ∧
      o.console = some start := by
  unfold ofEnvironment at h
  cases hname : Level.ofAnyCase ((env.lookup levelVariable).getD "WARNING".toList) with
  | error e =>
    rw [hname] at h
    cases h
  | ok start =>
    rw [hname] at h
    obtain rfl := Except.ok.inj h
    exact ⟨start, rfl, rfl⟩

end Outlets

def loggedSession : Session where
  disk := ⟨.dir [], []⟩
  outlets := { console := some .info, file := some "log.json".toList }
  env := [(Outlets.levelVariable, "info".toList), (Outlets.fileVariable, "log.json".toList)]

end CommentTags
