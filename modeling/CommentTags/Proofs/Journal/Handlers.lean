import CommentTags.Journal.Handlers
import CommentTags.Proofs.Session.Actions
import Mathlib.Data.List.Basic

/-!
The handlers do what the outlets say. Whatever is logged, and however often the threshold of the
console is moved, there is at most one handler for the console and one for the log file, and the
remembered number is never that of the latter.
-/

namespace CommentTags

def Sink.isConsole : Sink → Bool
  | .console => true
  | .file _ => false

namespace Outlets

theorem act_setConsoleLevel_of_ok (o : Outlets) {name : Text} {least : Level}
    (h : Level.ofAnyCase name = .ok least) :
    o.act (.setConsoleLevel name) = { outlets := { o with console := some least } } := by
  rw [act, h]

theorem act_setConsoleLevel_of_error (o : Outlets) {name : Text} {e : LevelError}
    (h : Level.ofAnyCase name = .error e) :
    o.act (.setConsoleLevel name) =
      { outlets := { o with console := none }, refusal := some e } := by
  rw [act, h]

theorem act_setConsoleLevel_quiet (o : Outlets) (name : Text) :
    (o.act (.setConsoleLevel name)).shown = [] ∧ (o.act (.setConsoleLevel name)).kept = [] := by
  cases hname : Level.ofAnyCase name with
  | ok least =>
    rw [act_setConsoleLevel_of_ok o hname]
    exact ⟨rfl, rfl⟩
  | error e =>
    rw [act_setConsoleLevel_of_error o hname]
    exact ⟨rfl, rfl⟩

end Outlets

namespace Handlers

/-- The handlers of the console and of the log file are those that the outlets ask for. The
remembered number may be that of a handler which is gone, but never that of the log file. -/
structure Realizes (hs : Handlers) (o : Outlets) (number other : ℕ) : Prop where
  consoles : hs.installed.filter (·.sink.isConsole) =
    o.console.toList.map (fun least => ⟨number, .console, least⟩)
  files : hs.installed.filter (!·.sink.isConsole) =
    o.file.toList.map (fun path => ⟨other, .file path, Outlets.fileLevel⟩)
  remembered : ∀ least, o.console = some least → hs.console = some number
  apart : ∀ k, hs.console = some k → k ≠ other ∧ k < hs.next
  used : other < hs.next

def Agree (taken : List (Sink × LogLine)) (file : Option Text) (shown kept : List LogLine) : Prop :=
  taken.filter (·.1.isConsole) = shown.map (fun line => (.console, line)) ∧
    taken.filter (!·.1.isConsole) =
      file.toList.flatMap (fun path => kept.map (fun line => (.file path, line)))

theorem agree_nil (file : Option Text) : Agree [] file [] [] := by
  constructor
  · rfl
  · cases file <;> rfl

theorem Agree.append {taken taken' : List (Sink × LogLine)} {file : Option Text}
    {shown shown' kept kept' : List LogLine} (h : Agree taken file shown kept)
    (h' : Agree taken' file shown' kept') :
    Agree (taken ++ taken') file (shown ++ shown') (kept ++ kept') := by
  constructor
  · rw [List.filter_append, List.map_append, h.1, h'.1]
  · rw [List.filter_append, h.2, h'.2]
    cases file <;> simp

theorem filter_deliver (hs : Handlers) (p : Sink → Bool) (level : Level) (line : LogLine) :
    (hs.deliver level line).filter (fun d => p d.1) =
      ((hs.installed.filter (fun h => p h.sink)).filter
        (fun h => h.least.severity ≤ level.severity)).map (fun h => (h.sink, line)) := by
  rw [deliver, List.filter_map, List.filter_filter, List.filter_filter]
  congr 1
  refine List.filter_congr fun h _ => ?_
  exact Bool.and_comm _ _

section Steps

variable {hs : Handlers} {o : Outlets} {number other : ℕ}

theorem Realizes.agree_deliver (h : hs.Realizes o number other) (level : Level) (line : LogLine) :
    Agree (hs.deliver level line) o.file (if o.shows level then [line] else [])
      (if o.keeps level then [line] else []) := by
  constructor
  · rw [filter_deliver hs Sink.isConsole, h.consoles]
    unfold Outlets.shows
    cases o.console with
    | none => rfl
    | some least =>
      by_cases hlevel : least.severity ≤ level.severity <;> simp [hlevel]
  · rw [filter_deliver hs (fun sink => !sink.isConsole), h.files]
    unfold Outlets.keeps
    cases o.file with
    | none => rfl
    | some path =>
      by_cases hlevel : Outlets.fileLevel.severity ≤ level.severity <;> simp [hlevel]

theorem Realizes.isEmpty_installed (h : hs.Realizes o number other) :
    hs.installed.isEmpty = o.isClosed := by
  have hconsoles := h.consoles
  have hfiles := h.files
  unfold Outlets.isClosed
  cases hinstalled : hs.installed with
  | nil =>
    rw [hinstalled] at hconsoles hfiles
    cases hconsole : o.console with
    | none =>
      cases hfile : o.file with
      | none => rfl
      | some path => simp [hfile] at hfiles
    | some least => simp [hconsole] at hconsoles
  | cons first rest =>
    rw [hinstalled] at hconsoles hfiles
    cases hconsole : o.console with
    | some least => rfl
    | none =>
      cases hfile : o.file with
      | some path => rfl
      | none =>
        rw [hconsole] at hconsoles
        rw [hfile] at hfiles
        cases hsink : first.sink.isConsole with
        | true => simp [hsink] at hconsoles
        | false => simp [hsink] at hfiles

theorem getD_remove? (hs : Handlers) (k : ℕ) :
    (hs.remove? k).getD hs = { hs with installed := hs.installed.filter (·.number ≠ k) } := by
  unfold remove?
  split
  · rfl
  · rename_i hnone
    simp only [List.any_eq_true, decide_eq_true_eq, not_exists, not_and] at hnone
    rw [Option.getD_none, List.filter_eq_self.mpr fun h hh => decide_eq_true (hnone h hh)]

theorem filter_filter_number (hs : Handlers) (p : Sink → Bool) (k : ℕ) :
    (hs.installed.filter (·.number ≠ k)).filter (fun h => p h.sink) =
      (hs.installed.filter (fun h => p h.sink)).filter (·.number ≠ k) := by
  rw [List.filter_filter, List.filter_filter]
  exact List.filter_congr fun h _ => Bool.and_comm _ _

theorem Realizes.remove (h : hs.Realizes o number other) {k : ℕ} (hk : hs.console = some k) :
    ((hs.remove? k).getD hs).Realizes { o with console := none } number other := by
  rw [getD_remove?]
  refine ⟨?_, ?_, fun _ hleast => (nomatch hleast), h.apart, h.used⟩
  · rw [filter_filter_number hs Sink.isConsole, h.consoles]
    cases hconsole : o.console with
    | none => rfl
    | some least =>
      have hnumber : k = number := by
        rw [h.remembered least hconsole] at hk
        exact (Option.some.inj hk).symm
      simp [hnumber]
  · rw [filter_filter_number hs (fun sink => !sink.isConsole), h.files]
    have hother : other ≠ k := Ne.symm (h.apart k hk).1
    cases o.file with
    | none => rfl
    | some path => simp [hother]

theorem addConsole_of_ok (hs : Handlers) {name : Text} {least : Level}
    (h : Level.ofAnyCase name = .ok least) :
    hs.addConsole name =
      (⟨hs.installed ++ [⟨hs.next, .console, least⟩], hs.next + 1, some hs.next⟩, none) := by
  rw [Handlers.addConsole, h]
  rfl

theorem addConsole_of_error (hs : Handlers) {name : Text} {e : LevelError}
    (h : Level.ofAnyCase name = .error e) :
    hs.addConsole name = (⟨hs.installed, hs.next + 1, hs.console⟩, some e) := by
  rw [Handlers.addConsole, h]
  rfl

theorem Realizes.addConsole (h : hs.Realizes { o with console := none } number other)
    (name : Text) :
    ∃ number', (hs.addConsole name).1.Realizes (o.act (.setConsoleLevel name)).outlets number'
        other ∧
      (hs.addConsole name).2 = (o.act (.setConsoleLevel name)).refusal := by
  have hconsoles : hs.installed.filter (·.sink.isConsole) = [] := h.consoles
  cases hname : Level.ofAnyCase name with
  | error e =>
    rw [hs.addConsole_of_error hname, o.act_setConsoleLevel_of_error hname]
    refine ⟨number, ⟨hconsoles, h.files, h.remembered, fun k hk => ?_, ?_⟩, rfl⟩
    · exact ⟨(h.apart k hk).1, Nat.lt_succ_of_lt (h.apart k hk).2⟩
    · exact Nat.lt_succ_of_lt h.used
  | ok least =>
    rw [hs.addConsole_of_ok hname, o.act_setConsoleLevel_of_ok hname]
    refine ⟨hs.next, ⟨?_, ?_, fun _ _ => rfl, fun k hk => ?_, ?_⟩, rfl⟩
    · rw [List.filter_append, hconsoles]
      rfl
    · rw [List.filter_append, h.files]
      exact List.append_nil _
    · obtain rfl := Option.some.inj hk
      exact ⟨Nat.ne_of_gt h.used, Nat.lt_succ_self _⟩
    · exact Nat.lt_succ_of_lt h.used

theorem Realizes.setConsoleLevel (h : hs.Realizes o number other) (name : Text) :
    ∃ number', (hs.setConsoleLevel name).1.Realizes (o.act (.setConsoleLevel name)).outlets
        number' other ∧
      (hs.setConsoleLevel name).2 = (o.act (.setConsoleLevel name)).refusal := by
  unfold Handlers.setConsoleLevel
  cases hk : hs.console with
  | some k => exact (h.remove hk).addConsole name
  | none =>
    -- Where no number is remembered there is no handler that could be left behind.
    have hnone : o.console = none := by
      cases hconsole : o.console with
      | none => rfl
      | some least =>
        rw [h.remembered least hconsole] at hk
        cases hk
    have hbare : { o with console := none } = o := by rw [← hnone]
    exact (hbare ▸ h).addConsole name

theorem Realizes.act (h : hs.Realizes o number other) (action : LogAction) :
    (∃ number', (hs.act action).1.Realizes (o.act action).outlets number' other) ∧
      Agree (hs.act action).2.1 o.file (o.act action).shown (o.act action).kept ∧
      (hs.act action).2.2 = (o.act action).refusal := by
  cases action with
  | setConsoleLevel name =>
    obtain ⟨number', hmoved, hrefusal⟩ := h.setConsoleLevel name
    refine ⟨⟨number', hmoved⟩, ?_, hrefusal⟩
    obtain ⟨hshown, hkept⟩ := o.act_setConsoleLevel_quiet name
    rw [hshown, hkept]
    exact agree_nil o.file
  | write level line =>
    have hclosed := h.isEmpty_installed
    cases hopen : o.isClosed with
    | true =>
      rw [hopen] at hclosed
      simp only [Handlers.act, Outlets.act, hclosed, hopen, if_true]
      exact ⟨⟨number, h⟩, agree_nil o.file, trivial⟩
    | false =>
      rw [hopen] at hclosed
      simp only [Handlers.act, Outlets.act, hclosed, hopen, Bool.false_eq_true, if_false]
      cases level with
      | ok level => exact ⟨⟨number, h⟩, h.agree_deliver level _, rfl⟩
      | error e => exact ⟨⟨number, h⟩, agree_nil o.file, rfl⟩

end Steps

theorem exists_of_ofEnvironment {env : Environment} {o : Outlets}
    (h : Outlets.ofEnvironment env = .ok o) :
    ∃ hs number other, ofEnvironment env = .ok hs ∧ hs.Realizes o number other := by
  unfold Outlets.ofEnvironment at h
  cases hname : Level.ofAnyCase ((env.lookup Outlets.levelVariable).getD "WARNING".toList) with
  | error e =>
    rw [hname] at h
    cases h
  | ok least =>
    rw [hname] at h
    obtain rfl := Except.ok.inj h
    have hconsole := initial.clear.addConsole_of_ok hname
    unfold ofEnvironment
    rw [hconsole]
    dsimp only
    cases (env.lookup Outlets.fileVariable).filter (fun path => !path.isEmpty) with
    | none =>
      refine ⟨_, 1, 0, rfl, ⟨rfl, rfl, fun _ _ => rfl, fun k hk => ?_, Nat.succ_pos 1⟩⟩
      obtain rfl := Option.some.inj hk
      exact ⟨Nat.one_ne_zero, Nat.lt_succ_self 1⟩
    | some path =>
      refine ⟨_, 1, 2, rfl, ⟨rfl, rfl, fun _ _ => rfl, fun k hk => ?_, Nat.lt_succ_self 2⟩⟩
      obtain rfl := Option.some.inj hk
      exact ⟨Nat.ne_of_lt (Nat.lt_succ_self 1), Nat.lt_succ_of_lt (Nat.lt_succ_self 1)⟩

end Handlers

end CommentTags
