import CommentTags.CommandLine.Scan
import CommentTags.Proofs.Console.Lines
import CommentTags.Proofs.Session.Actions

namespace CommentTags.CommandLine

namespace Scan

def listing (width : ℕ) (patterns : List IgnorePattern) : Text :=
  patterns.flatMap (fun p => (Console.printed width (patternLine p)).toOption.getD [])

def Listable (width : ℕ) (patterns : List IgnorePattern) : Prop :=
  ∀ p ∈ patterns, ∃ text, Console.printed width (patternLine p) = .ok text

theorem Listable.listing_eq_nil_iff {width : ℕ} {patterns : List IgnorePattern}
    (h : Listable width patterns) : listing width patterns = [] ↔ patterns = [] := by
  constructor
  · intro hnil
    cases patterns with
    | nil => rfl
    | cons p ps =>
      obtain ⟨text, htext⟩ := h p List.mem_cons_self
      simp [listing, htext, Except.toOption, Console.ne_nil_of_printed htext] at hnil
  · rintro rfl
    rfl

def settingsOf (s : Session) (root : Text) : Except Settings.Flaw Settings :=
  (Settings.load s.disk s.env root s.host.readingRoom).2

/-- How a scan finds the disk later on, when nothing but log lines has been written. -/
def Finds (s : Session) (access : FileAccess) : Prop :=
  ∃ later, s.disk.LoggedTo s.outlets.file s.host.writingRoom later ∧
    access = later.access false s.host.codecs

structure Collects (r : ScanRequest) (s : Session) (patterns : List IgnorePattern)
    (report : Report) : Prop where
  root : report.root = rootOf r s.disk
  settings : ∃ settings, settingsOf s report.root = .ok settings ∧
    report.marker = (nonEmpty r.marker).getD settings.marker ∧
    (∃ access, Finds s access ∧
      (IgnoreFile.patterns access
        (r.ignoreFile.getD (Path.join report.root settings.ignoreFile)) settings.encoding).2 =
          .ok patterns) ∧
    ∃ access, Finds s access ∧
      walk ⟨access, .standard, patterns, report.marker, settings.encoding⟩
        report.root = .ok report.tags

inductive Fails (r : ScanRequest) (s : Session) : Fault → Prop where
  | settings {flaw : Settings.Flaw} (h : settingsOf s (rootOf r s.disk) = .error flaw) :
    Fails r s ⟨flaw.kind, flaw.message⟩
  | patterns {settings : Settings} {access : FileAccess} {e : IgnoreError}
    (hsettings : settingsOf s (rootOf r s.disk) = .ok settings) (haccess : Finds s access)
    (h : (IgnoreFile.patterns access
      (r.ignoreFile.getD (Path.join (rootOf r s.disk) settings.ignoreFile))
      settings.encoding).2 = .error e) :
    Fails r s ⟨e.kind, e.message⟩
  | walk {settings : Settings} {access last : FileAccess} {patterns : List IgnorePattern}
    {e : WalkError} (hsettings : settingsOf s (rootOf r s.disk) = .ok settings)
    (haccess : Finds s access)
    (hpatterns : (IgnoreFile.patterns access
      (r.ignoreFile.getD (Path.join (rootOf r s.disk) settings.ignoreFile))
      settings.encoding).2 = .ok patterns)
    (hlast : Finds s last)
    (h : CommentTags.walk ⟨last, .standard, patterns,
      (nonEmpty r.marker).getD settings.marker, settings.encoding⟩ (rootOf r s.disk) = .error e) :
    Fails r s ⟨e.kind, e.message⟩

theorem finds_of_reaches {s t : Session} {text : Text} (h : s.Reaches text t) :
    Finds s t.access :=
  ⟨t.disk, h.disk, by rw [Session.access, h.host]⟩

theorem loadSettings_meets (root : Text) (s : Session) :
    (loadSettings root).Meets s
      (fun settings t => settingsOf s root = .ok settings ∧ s.Reaches [] t)
      (fun h t => (∃ flaw, settingsOf s root = .error flaw ∧
        h = .fault ⟨flaw.kind, flaw.message⟩) ∧ s.Reaches [] t) := by
  unfold loadSettings settingsOf
  apply Action.meets_session_bind
  dsimp only
  cases hload : Settings.load s.disk s.env root s.host.readingRoom with
  | mk journal result =>
    dsimp only
    apply Action.meets_modify_bind
    apply Action.meets_orFault
    · rintro settings rfl
      exact ⟨rfl, s.reaches_noteAll journal⟩
    · rintro flaw rfl
      exact ⟨⟨flaw, rfl, rfl⟩, s.reaches_noteAll journal⟩

theorem compilePatterns_meets (path encoding : Text) (s : Session) :
    (compilePatterns path encoding).Meets s
      (fun patterns t =>
        (IgnoreFile.patterns s.access path encoding).2 = .ok patterns ∧ s.Reaches [] t)
      (fun h t => (∃ e, (IgnoreFile.patterns s.access path encoding).2 = .error e ∧
        h = .fault ⟨e.kind, e.message⟩) ∧ s.Reaches [] t) := by
  unfold compilePatterns
  apply Action.meets_session_bind
  dsimp only
  apply Action.meets_modify_bind
  apply Action.meets_orFault
  · intro patterns hpatterns
    exact ⟨hpatterns, s.reaches_noteAll _⟩
  · intro e he
    exact ⟨⟨e, he, rfl⟩, s.reaches_noteAll _⟩

theorem findTags_meets (root marker encoding : Text) (patterns : List IgnorePattern)
    (s : Session) :
    (findTags root marker encoding patterns).Meets s
      (fun tags t =>
        walk ⟨s.access, .standard, patterns, marker, encoding⟩ root = .ok tags ∧ s.Reaches [] t)
      (fun h t =>
        (∃ e, walk ⟨s.access, .standard, patterns, marker, encoding⟩ root = .error e ∧
          h = .fault ⟨e.kind, e.message⟩) ∧ s.Reaches [] t) := by
  unfold findTags
  apply Action.meets_session_bind
  dsimp only
  apply Action.meets_modify_bind
  apply Action.meets_orFault
  · intro tags htags
    exact ⟨htags, s.reaches_noteAll _⟩
  · intro e he
    exact ⟨⟨e, he, rfl⟩, s.reaches_noteAll _⟩

theorem printMarkup_meets (markup : Text) (s : Session) :
    (printMarkup markup).Meets s
      (fun _ t => ∃ text, Console.printed s.host.width markup = .ok text ∧ t = s.emit [.out text])
      (fun h t => (∃ e, Console.printed s.host.width markup = .error e ∧
        h = .fault (markupFault e)) ∧ t = s) := by
  unfold printMarkup
  apply Action.meets_session_bind
  dsimp only
  apply Action.meets_orFault_bind
  · exact fun text htext => ⟨text, htext, rfl⟩
  · exact fun e he => ⟨⟨e, he, rfl⟩, rfl⟩

theorem printPatterns_meets (patterns : List IgnorePattern) (s : Session) :
    (printPatterns patterns).Meets s
      (fun _ t => Listable s.host.width patterns ∧ s.Reaches (listing s.host.width patterns) t)
      (fun h t => (∃ f, h = .fault f) ∧ ∃ text, s.Reaches text t) := by
  induction patterns generalizing s with
  | nil => exact ⟨List.forall_mem_nil _, .refl s⟩
  | cons p ps ih =>
    unfold printPatterns
    refine Action.meets_bind ((printMarkup_meets (patternLine p) s).mono (fun _ t h => h) ?_) ?_
    · rintro h t ⟨⟨e, -, rfl⟩, rfl⟩
      exact ⟨⟨_, rfl⟩, [], .refl t⟩
    · rintro - t ⟨text, htext, rfl⟩
      have hreach := s.reaches_print text
      refine (ih _).mono (fun _ u hrest => ?_) fun h u hfault => ?_
      · have hlisting : listing s.host.width (p :: ps) = text ++ listing s.host.width ps := by
          simp [listing, htext, Except.toOption]
        rw [hlisting]
        exact ⟨List.forall_mem_cons.mpr ⟨⟨text, htext⟩, hrest.1⟩, hreach.trans hrest.2⟩
      · obtain ⟨hfault, more, hmore⟩ := hfault
        exact ⟨hfault, text ++ more, hreach.trans hmore⟩

theorem search_meets (root marker encoding : Text) (patterns : List IgnorePattern) (s : Session) :
    (do
      .note (startNote root marker)
      let tags ← findTags root marker encoding patterns
      return ⟨root, marker, tags⟩ : Action Report).Meets s
      (fun report t => report.root = root ∧ report.marker = marker ∧ s.Reaches [] t ∧
        ∃ u text, s.Reaches text u ∧
          walk ⟨u.access, .standard, patterns, marker, encoding⟩ root = .ok report.tags)
      (fun h t => (∃ u text e, s.Reaches text u ∧
        walk ⟨u.access, .standard, patterns, marker, encoding⟩ root = .error e ∧
          h = .fault ⟨e.kind, e.message⟩) ∧ s.Reaches [] t) := by
  have hnote := s.reaches_note (startNote root marker)
  apply Action.meets_modify_bind
  refine Action.meets_bind ((findTags_meets root marker encoding patterns _).mono
    (fun _ t h => h) ?_) ?_
  · rintro h t ⟨⟨e, he, rfl⟩, hreach⟩
    exact ⟨⟨_, _, e, hnote, he, rfl⟩, hnote.trans hreach⟩
  · rintro tags t ⟨htags, hreach⟩
    exact Action.meets_pure ⟨rfl, rfl, hnote.trans hreach, _, _, hnote, htags⟩

theorem collect_meets (r : ScanRequest) (s : Session) :
    (collect r).Meets s
      (fun report t => ∃ patterns, Collects r s patterns report ∧
        (r.showPatterns = true → Listable s.host.width patterns) ∧
        s.Reaches (if r.showPatterns then listing s.host.width patterns else []) t)
      (fun h t => (∃ f, h = .fault f ∧ (r.showPatterns = false → Fails r s f)) ∧
        ∃ text, (r.showPatterns = false → text = []) ∧ s.Reaches text t) := by
  unfold collect
  apply Action.meets_session_bind
  dsimp only
  refine Action.meets_bind ((loadSettings_meets (rootOf r s.disk) s).mono (fun _ t h => h) ?_) ?_
  · rintro h t ⟨⟨flaw, hflaw, rfl⟩, hreach⟩
    exact ⟨⟨_, rfl, fun _ => .settings hflaw⟩, [], fun _ => rfl, hreach⟩
  rintro settings s₁ ⟨hsettings, h₁⟩
  refine Action.meets_bind ((compilePatterns_meets _ _ s₁).mono (fun _ t h => h) ?_) ?_
  · rintro h t ⟨⟨e, he, rfl⟩, hreach⟩
    exact ⟨⟨_, rfl, fun _ => .patterns hsettings (finds_of_reaches h₁) he⟩, [], fun _ => rfl,
      h₁.trans hreach⟩
  rintro patterns s₂ ⟨hpatterns, h₂⟩
  have h₂ := h₁.trans h₂
  -- what is left is the same, whatever was printed before it
  have hsearch : ∀ (text : Text) (s₃ : Session), s.Reaches text s₃ →
      ∀ report t, report.root = rootOf r s.disk ∧
        report.marker = (nonEmpty r.marker).getD settings.marker ∧ s₃.Reaches [] t ∧
        (∃ u more, s₃.Reaches more u ∧
          walk ⟨u.access, .standard, patterns, (nonEmpty r.marker).getD settings.marker,
            settings.encoding⟩ (rootOf r s.disk) = .ok report.tags) →
      Collects r s patterns report ∧ s.Reaches text t := by
    rintro text s₃ h₃ ⟨_, _, tags⟩ t ⟨rfl, rfl, h₄, u, more, hu, htags⟩
    refine ⟨⟨rfl, settings, hsettings, rfl, ⟨_, finds_of_reaches h₁, hpatterns⟩, _,
      finds_of_reaches (h₃.trans hu), htags⟩, ?_⟩
    simpa using h₃.trans h₄
  cases hshow : r.showPatterns with
  | false =>
    refine (search_meets _ _ _ patterns s₂).mono (fun report t h => ?_) ?_
    · obtain ⟨hcollects, hreach⟩ := hsearch [] s₂ h₂ report t h
      exact ⟨patterns, hcollects, nofun, hreach⟩
    · rintro h t ⟨⟨u, more, e, hu, he, rfl⟩, hreach⟩
      have hlast := finds_of_reaches (h₂.trans hu)
      exact ⟨⟨_, rfl, fun _ => .walk hsettings (finds_of_reaches h₁) hpatterns hlast he⟩, [],
        fun _ => rfl, h₂.trans hreach⟩
  | true =>
    refine Action.meets_bind ((printPatterns_meets patterns s₂).mono (fun _ t h => h) ?_) ?_
    · rintro h t ⟨⟨f, rfl⟩, text, hreach⟩
      exact ⟨⟨f, rfl, nofun⟩, text, nofun, h₂.trans hreach⟩
    · rintro - s₃ ⟨hlistable, h₃⟩
      rw [h₂.host] at hlistable h₃
      have h₃ := h₂.trans h₃
      refine (search_meets _ _ _ patterns s₃).mono (fun report t h => ?_) ?_
      · obtain ⟨hcollects, hreach⟩ := hsearch _ s₃ h₃ report t h
        exact ⟨patterns, hcollects, fun _ => hlistable, hreach⟩
      · rintro h t ⟨⟨-, -, e, -, -, rfl⟩, hreach⟩
        exact ⟨⟨_, rfl, nofun⟩, _, nofun, h₃.trans hreach⟩

end Scan

end CommentTags.CommandLine
