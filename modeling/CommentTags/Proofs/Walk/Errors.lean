import CommentTags.Ignore.File
import CommentTags.Proofs.File.Decoding
import CommentTags.Proofs.Walk.Patterns

namespace CommentTags

theorem Failure.kind_of_not_isSystem {f : Failure} (h : f.isSystem = false) :
    f.kind = "LookupError".toList ∨ f.kind = "UnicodeError".toList ∨
      f.kind = "ValueError".toList := by
  cases f with
  | system code reason path => cases h
  | unspecified text => cases h
  | lookup text => exact .inl rfl
  | undecodable text => exact .inr (.inl rfl)
  | zeroInPath => exact .inr (.inr rfl)
  | zeroInEncoding => exact .inr (.inr rfl)

def IgnoreError.IsOwn (e : IgnoreError) : Prop :=
  e.kind = "IgnoreFileError".toList ∨ e.kind = "IgnorePatternError".toList

def WalkError.IsOwn (e : WalkError) : Prop := e.kind = "ScanError".toList

theorem IgnoreError.not_isOwn_undecodable {f : Failure} (h : f.isSystem = false) :
    ¬ (undecodable f).IsOwn := by
  intro hown
  change f.kind = _ ∨ f.kind = _ at hown
  rcases Failure.kind_of_not_isSystem h with h | h | h <;> rw [h] at hown <;> revert hown <;> decide

theorem WalkError.not_isOwn_undecodable {f : Failure} (h : f.isSystem = false) :
    ¬ (undecodable f).IsOwn := by
  intro hown
  change f.kind = _ at hown
  rcases Failure.kind_of_not_isSystem h with h | h | h <;> rw [h] at hown <;> revert hown <;> decide

theorem IgnoreError.isOwn_unreadable (path : Text) (f : Failure) : (unreadable path f).IsOwn :=
  .inl rfl

theorem IgnoreError.isOwn_badLine (e : IgnoreLineError) : (badLine e).IsOwn := .inr rfl

theorem WalkError.isOwn_aborted (e : ScanAborted) : (aborted e).IsOwn := rfl

namespace IgnoreFile

open IgnoreError

variable {access : FileAccess} {path encoding : Text}

theorem lines_eq_error_iff (f : Failure) :
    lines access path encoding = .error f ↔
      access.failure? encoding (.read path) = some f := by
  simp only [lines, FileAccess.failure?]
  cases access.read path encoding with
  | error failure => simp
  | ok reading =>
    obtain ⟨lines, failure⟩ := reading
    cases failure <;> simp

theorem exists_lines (access : FileAccess) (path encoding : Text) :
    (∃ ls, lines access path encoding = .ok ls) ∨ ∃ f, lines access path encoding = .error f := by
  cases lines access path encoding with
  | ok ls => exact .inl ⟨ls, rfl⟩
  | error f => exact .inr ⟨f, rfl⟩

theorem patterns_not_isOwn_iff :
    (∃ e, (patterns access path encoding).2 = .error e ∧ ¬ e.IsOwn) ↔
      path ≠ [] ∧ ∃ f, f.isSystem = false ∧
        access.failure? encoding (.read path) = some f := by
  unfold patterns
  by_cases hpath : path = []
  · simp [hpath]
  · rw [if_neg (by simpa using hpath)]
    simp only [← lines_eq_error_iff, hpath, not_false_eq_true, ne_eq, true_and]
    rcases exists_lines access path encoding with ⟨ls, hlines⟩ | ⟨f, hlines⟩
    · rw [hlines]
      dsimp only
      cases IgnorePattern.ofLines ls with
      | ok ps => simp
      | error e => simp [isOwn_badLine]
    · rw [hlines]
      cases hsystem : f.isSystem with
      | true =>
        by_cases hmissing : f.isMissing = true
        · simp [hmissing, hsystem]
        · simp [hmissing, hsystem, isOwn_unreadable]
      | false =>
        have hmissing : f.isMissing = false := by
          cases f <;> first | rfl | cases hsystem
        simp [hmissing, hsystem, not_isOwn_undecodable hsystem]

end IgnoreFile

namespace WalkRun

variable {access : FileAccess} {encoding : Text}

structure Tells (access : FileAccess) (encoding : Text) (r : WalkRun) : Prop where
  ends : ∀ f, r.failure = some f → f.isSystem = true ∨
    ∃ c ∈ r.calls, access.failure? encoding c = some f
  stops : ∀ file f, .read file ∈ r.calls → access.failure? encoding (.read file) = some f →
    r.failure = some f

theorem tells_of_calls_eq_nil {r : WalkRun} (hcalls : r.calls = []) (hdone : r.failure = none) :
    r.Tells access encoding := by
  refine ⟨fun f hf => ?_, fun file f hfile => ?_⟩
  · rw [hdone] at hf
    cases hf
  · rw [hcalls] at hfile
    cases hfile

theorem tells_listed (dir : Text) {failure : Option Failure}
    (h : ∀ f, failure = some f → f.isSystem = true ∨
      access.failure? encoding (.list dir) = some f) :
    (⟨[.listed dir], failure⟩ : WalkRun).Tells access encoding := by
  refine ⟨fun f hf => (h f hf).imp_right fun hf => ⟨.list dir, List.mem_singleton_self _, hf⟩, ?_⟩
  intro file f hfile
  have hcall := List.mem_singleton.mp hfile
  cases hcall

theorem Tells.andThen {first second : WalkRun} (hfirst : first.Tells access encoding)
    (hsecond : second.Tells access encoding) : (first.andThen second).Tells access encoding := by
  cases hdone : first.failure with
  | some failure =>
    rw [andThen_of_failed hdone]
    exact hfirst
  | none =>
    have hcalls := calls_andThen hdone second
    have hfailure := failure_andThen hdone second
    refine ⟨fun f hf => ?_, fun file f hfile hf => ?_⟩
    · rw [hfailure] at hf
      rw [hcalls]
      refine (hsecond.ends f hf).imp_right ?_
      rintro ⟨c, hc, hcf⟩
      exact ⟨c, List.mem_append_right _ hc, hcf⟩
    · rw [hcalls] at hfile
      rw [hfailure]
      rcases List.mem_append.mp hfile with hfile | hfile
      · have hstop := hfirst.stops file f hfile hf
        rw [hdone] at hstop
        cases hstop
      · exact hsecond.stops file f hfile hf

theorem tells_all {α : Type} {visit : α → WalkRun} (l : List α)
    (h : ∀ x, (visit x).Tells access encoding) :
    (all (l.map visit)).Tells access encoding := by
  induction l with
  | nil => exact tells_of_calls_eq_nil rfl rfl
  | cons x l ih => exact (h x).andThen ih

end WalkRun

namespace WalkPlan

variable (plan : WalkPlan)

theorem tells_scanFile (path sourceFile : Text) :
    (plan.scanFile path sourceFile).Tells plan.access plan.encoding := by
  have hfailure := plan.failure_scanFile path sourceFile
  refine ⟨fun f hf => .inr ⟨.read path, ?_, ?_⟩, fun file f hfile hf => ?_⟩
  · rw [calls_scanFile]
    exact List.mem_cons_self
  · rw [← hfailure, hf]
  · rw [calls_scanFile, List.mem_singleton, Call.read.injEq] at hfile
    rw [hfailure, ← hfile, hf]

theorem tells_visitDir (depth : ℕ) (dir path : Text) :
    (plan.visitDir depth dir path).Tells plan.access plan.encoding := by
  induction depth generalizing dir path with
  | zero =>
    refine WalkRun.tells_listed dir (fun f hf => .inl ?_)
    obtain rfl := Option.some.inj hf
    rfl
  | succ depth ih =>
    unfold visitDir
    split
    · rename_i failure hlist
      refine WalkRun.tells_listed dir (fun f hf => .inr ?_)
      obtain rfl := Option.some.inj hf
      simp only [FileAccess.failure?, hlist]
    · rename_i entries hlist
      have hopening : (⟨[.listed dir], none⟩ : WalkRun).Tells plan.access plan.encoding :=
        WalkRun.tells_listed dir (fun f hf => by cases hf)
      refine hopening.andThen (WalkRun.tells_all entries fun e => ?_)
      unfold visitEntry
      dsimp only
      split
      · split
        · exact WalkRun.tells_of_calls_eq_nil rfl rfl
        · exact ih _ _
      · split
        · exact WalkRun.tells_of_calls_eq_nil rfl rfl
        · exact plan.tells_scanFile _ _

end WalkPlan

namespace Call

def path : Call → Text
  | list dir => dir
  | read file => file

end Call

namespace WalkRun

theorem mem_calls_andThen {first second : WalkRun} {c : Call}
    (hc : c ∈ (first.andThen second).calls) : c ∈ first.calls ∨ c ∈ second.calls := by
  cases hdone : first.failure with
  | some failure =>
    rw [andThen_of_failed hdone] at hc
    exact .inl hc
  | none =>
    rw [calls_andThen hdone] at hc
    exact List.mem_append.mp hc

theorem mem_calls_all {runs : List WalkRun} {c : Call} (hc : c ∈ (all runs).calls) :
    ∃ r ∈ runs, c ∈ r.calls := by
  induction runs with
  | nil => cases hc
  | cons r runs ih =>
    rcases mem_calls_andThen hc with hc | hc
    · exact ⟨r, List.mem_cons_self, hc⟩
    · obtain ⟨r', hr', hc⟩ := ih hc
      exact ⟨r', List.mem_cons_of_mem r hr', hc⟩

theorem mem_calls_read_iff (r : WalkRun) (file : Text) :
    .read file ∈ r.calls ↔ file ∈ r.opened := by
  unfold calls opened
  simp only [List.mem_filterMap]
  refine exists_congr fun e => and_congr_right fun _ => ?_
  cases e <;> simp [WalkEvent.call?, WalkEvent.opened?]

end WalkRun

namespace WalkPlan

variable {plan : WalkPlan}

theorem zero_mem_of_calls
    (hnames : ∀ dir es, plan.access.list dir = .ok es → ∀ e ∈ es, Path.IsName e.name)
    {depth : ℕ} {dir path : Text} {c : Call} (hc : c ∈ (plan.visitDir depth dir path).calls)
    (hzero : Failure.zero ∈ c.path) : Failure.zero ∈ dir := by
  induction depth generalizing dir path with
  | zero =>
    obtain rfl := List.mem_singleton.mp hc
    exact hzero
  | succ depth ih =>
    unfold visitDir at hc
    split at hc
    · obtain rfl := List.mem_singleton.mp hc
      exact hzero
    · rename_i es hes
      rcases WalkRun.mem_calls_andThen hc with hc | hc
      · obtain rfl := List.mem_singleton.mp hc
        exact hzero
      · obtain ⟨r, hr, hc⟩ := WalkRun.mem_calls_all hc
        obtain ⟨e, he, rfl⟩ := List.mem_map.mp hr
        have hname := hnames dir es hes e he
        unfold visitEntry at hc
        dsimp only at hc
        split at hc
        · split at hc
          · cases hc
          · exact hname.zero_mem_of_join (ih hc)
        · split at hc
          · cases hc
          · rw [calls_scanFile, List.mem_singleton] at hc
            rw [hc] at hzero
            exact hname.zero_mem_of_join hzero

end WalkPlan

namespace Disk

variable {d : Disk} {followLinks : Bool}

theorem name_of_entry {dir name : Text} {n : Node} {e : Entry}
    (h : d.entry followLinks dir name n = .ok (some e)) : e.name = name := by
  unfold entry at h
  split at h
  · cases h
    rfl
  · cases h
    rfl
  · split at h
    · dsimp only at h
      split at h
      · cases h
        rfl
      · cases h
        rfl
      · split at h <;> cases h
        rfl
    · cases h

theorem mem_of_entriesOf {dir : Text} {es : List (Text × Node)} {found : List Entry}
    (h : d.entriesOf followLinks dir es = .ok found) {e : Entry} (he : e ∈ found) :
    ∃ n, (e.name, n) ∈ es := by
  induction es generalizing found with
  | nil =>
    cases h
    cases he
  | cons entry es ih =>
    obtain ⟨name, n⟩ := entry
    rw [entriesOf] at h
    split at h
    · cases h
    · rename_i first hfirst
      cases hes : d.entriesOf followLinks dir es with
      | error failure =>
        rw [hes] at h
        cases h
      | ok later =>
        rw [hes] at h
        obtain rfl := Except.ok.inj h
        rcases List.mem_append.mp he with he | he
        · rw [Option.mem_toList] at he
          obtain rfl := name_of_entry (he ▸ hfirst)
          exact ⟨n, List.mem_cons_self⟩
        · obtain ⟨n', hn'⟩ := ih hes he
          exact ⟨n', List.mem_cons_of_mem _ hn'⟩

theorem isName_of_listDir (hnamed : d.root.WellNamed) {dir : Text} {found : List Entry}
    (h : d.listDir followLinks dir = .ok found) {e : Entry} (he : e ∈ found) :
    Path.IsName e.name := by
  unfold listDir at h
  split at h
  · cases h
  · rename_i es hdir
    cases hes : d.entriesOf followLinks dir es.reverse with
    | error failure =>
      rw [hes] at h
      cases h
    | ok listed =>
      rw [hes] at h
      obtain rfl := Except.ok.inj h
      obtain ⟨n, hn⟩ := mem_of_entriesOf hes (List.mem_mergeSort.mp he)
      cases wellNamed_of_readDir hnamed hdir with
      | dir _ hnames _ => exact hnames _ (List.mem_reverse.mp hn)

theorem depth_pos (d : Disk) : 0 < d.depth :=
  Nat.mul_pos (Nat.succ_pos _) (Nat.succ_pos _)

end Disk

theorem WalkRun.result_not_isOwn_iff (r : WalkRun) (root : Text) :
    (∃ e, r.result root = .error e ∧ ¬ e.IsOwn) ↔
      ∃ f, f.isSystem = false ∧ r.failure = some f := by
  unfold result
  cases r.failure with
  | none => simp
  | some f =>
    cases hsystem : f.isSystem with
    | true => simp [hsystem, WalkError.isOwn_aborted]
    | false => simp [hsystem, WalkError.not_isOwn_undecodable hsystem]

theorem WalkPlan.walk_not_isOwn_iff {d : Disk} (hnamed : d.root.WellNamed) (followLinks : Bool)
    (codecs : Codecs) (plan : WalkPlan) (root : Text) :
    (∃ e, walk (plan.withAccess (d.access followLinks codecs)) root = .error e ∧ ¬ e.IsOwn) ↔
      Failure.zero ∈ root ∨
        ∃ file ∈ ((plan.withAccess (d.access followLinks codecs)).run root).opened,
          d.Misreads codecs plan.encoding file := by
  let reading := plan.withAccess (d.access followLinks codecs)
  have htells : (reading.run root).Tells (d.access followLinks codecs) plan.encoding :=
    reading.tells_visitDir d.depth root []
  rw [walk, WalkRun.result_not_isOwn_iff]
  constructor
  · rintro ⟨f, hsystem, hf⟩
    rcases htells.ends f hf with hf | ⟨c, hc, hf⟩
    · rw [hf] at hsystem
      cases hsystem
    · cases c with
      | list dir =>
        -- A listing fails otherwise only for a zero, which no listed name brings in.
        have hlist : d.listDir followLinks dir = .error f := by
          simp only [FileAccess.failure?, Disk.access] at hf
          split at hf
          · rename_i failure hlist
            rw [hlist, Option.some.inj hf]
          · cases hf
        rcases Disk.isSystem_of_listDir hlist with hf | hzero
        · rw [hf] at hsystem
          cases hsystem
        · exact .inl (zero_mem_of_calls
            (fun _ _ hes _ he => Disk.isName_of_listDir hnamed hes he) hc hzero)
      | read file =>
        exact .inr ⟨file, (WalkRun.mem_calls_read_iff _ file).mp hc,
          (Disk.misreads_iff plan.encoding file).mpr ⟨f, hsystem, hf⟩⟩
  · rintro (hzero | ⟨file, hfile, hmisreads⟩)
    · obtain ⟨depth, hdepth⟩ := Nat.exists_eq_succ_of_ne_zero d.depth_pos.ne'
      refine ⟨.zeroInPath, rfl, ?_⟩
      have hlist : (plan.withAccess (d.access followLinks codecs)).access.list root =
          .error .zeroInPath := Disk.listDir_of_zero hzero
      have hrun : reading.run root = reading.visitDir (depth + 1) root [] := by
        change reading.visitDir d.depth root [] = _
        rw [hdepth]
      rw [hrun, visitDir, hlist]
    · obtain ⟨f, hsystem, hf⟩ := (Disk.misreads_iff plan.encoding file).mp hmisreads
      exact ⟨f, hsystem,
        htells.stops file f ((WalkRun.mem_calls_read_iff _ file).mpr hfile) hf⟩

/-- What ends with another error than its own is a reading of a file that the system does not
refuse and that is no text all the same, or a walk from a path with a character of code zero. This
holds whatever other codecs the system has. -/
theorem not_isOwn_iff_misreads {d : Disk} (hnamed : d.root.WellNamed) (followLinks : Bool)
    (codecs : Codecs) :
    (∀ path encoding,
      (∃ e, (IgnoreFile.patterns (d.access followLinks codecs) path encoding).2 = .error e ∧
          ¬ e.IsOwn) ↔
        path ≠ [] ∧ d.Misreads codecs encoding path) ∧
    ∀ (plan : WalkPlan) (root : Text),
      (∃ e, walk (plan.withAccess (d.access followLinks codecs)) root = .error e ∧ ¬ e.IsOwn) ↔
        Failure.zero ∈ root ∨
          ∃ file ∈ ((plan.withAccess (d.access followLinks codecs)).run root).opened,
            d.Misreads codecs plan.encoding file := by
  constructor
  · intro path encoding
    rw [IgnoreFile.patterns_not_isOwn_iff, Disk.misreads_iff]
  · intro plan root
    exact plan.walk_not_isOwn_iff hnamed followLinks codecs root

def wideDisk : Disk := ⟨.dir [("a.c".toList, .file [0x61, 0x62])], []⟩

def widePlan : WalkPlan where
  access := wideDisk.access false
  marker := "@TODO".toList
  encoding := "utf-16".toList

theorem wellNamed_wideDisk : wideDisk.root.WellNamed := by
  refine .dir (by decide) (by decide) ?_
  intro e he
  obtain rfl := List.mem_singleton.mp he
  exact .file _

def unmarked : Failure := .undecodable "UTF-16 stream does not start with BOM".toList

theorem run_widePlan : widePlan.run ".".toList =
    ⟨[.listed ".".toList, .opened "./a.c".toList], some unmarked⟩ := by
  decide +kernel

theorem misreads_wideDisk : wideDisk.Misreads {} widePlan.encoding "./a.c".toList := by
  have hbytes : wideDisk.readBytes "./a.c".toList = .ok [0x61, 0x62] := by decide +kernel
  have hname : Encoding.ofFileName? widePlan.encoding = some .utf16 := by decide +kernel
  refine .inr (.inr ⟨_, hbytes, ?_⟩)
  rw [Encoding.Refuses, hname]
  decide

theorem not_isOwn_iff_misreads_wideDisk :
    wideDisk.root.WellNamed ∧
      (∃ e, walk widePlan ".".toList = .error e ∧ ¬ e.IsOwn) ∧
      ∃ e, (IgnoreFile.patterns widePlan.access "./a.c".toList widePlan.encoding).2 = .error e ∧
        ¬ e.IsOwn := by
  obtain ⟨hpatterns, hwalk⟩ := not_isOwn_iff_misreads wellNamed_wideDisk false {}
  refine ⟨wellNamed_wideDisk, ?_, ?_⟩
  · refine (hwalk widePlan ".".toList).mpr (.inr ⟨"./a.c".toList, ?_, misreads_wideDisk⟩)
    change _ ∈ (widePlan.run ".".toList).opened
    rw [run_widePlan]
    decide
  · exact (hpatterns "./a.c".toList widePlan.encoding).mpr ⟨by decide, misreads_wideDisk⟩

theorem walk_widePlan :
    wideDisk.readBytes "./a.c".toList = .ok [0x61, 0x62] ∧
      walk widePlan ".".toList = .error (.undecodable unmarked) ∧
      ¬ (WalkError.undecodable unmarked).IsOwn := by
  refine ⟨by decide +kernel, ?_, WalkError.not_isOwn_undecodable rfl⟩
  rw [walk, run_widePlan]
  rfl

end CommentTags
