import CommentTags.Proofs.Ignore.Below
import CommentTags.Proofs.Walk.Result

namespace CommentTags

namespace Path

/-- A name that is left of its path when backslashes count as slashes. -/
def Solid (name : Text) : Prop := Plain name ∧ ∃ c ∈ name, c ≠ '\\'

instance (name : Text) : Decidable (Solid name) :=
  decidable_of_iff (Plain name ∧ name.any (· != '\\') = true) (by simp [Solid])

theorem exists_mem_joined_of_solid {names : List Text} (hne : names ≠ [])
    (h : ∀ n ∈ names, Solid n) : ∃ c ∈ joined names, c ≠ '/' ∧ c ≠ '\\' := by
  obtain ⟨n, ns, rfl⟩ := List.exists_cons_of_ne_nil hne
  obtain ⟨⟨-, hslash⟩, c, hc, hback⟩ := h n List.mem_cons_self
  refine ⟨c, subset_joined_cons n ns hc, ?_, hback⟩
  rintro rfl
  exact hslash hc

end Path

def outsideVersionControl (names : List Text) : Bool :=
  (Path.above names).all (fun dir => dir.getLast? != some versionControlDir)

theorem isIgnored_of_above {patterns : List IgnorePattern} {names dir : List Text}
    (hsolid : ∀ n ∈ names, Path.Solid n) (hdir : dir ∈ Path.above names)
    (h : isIgnored patterns (Path.joined dir) true = true) (isDir : Bool) :
    isIgnored patterns (Path.joined names) isDir = true := by
  obtain ⟨hne, rest, hrest, rfl⟩ := Path.mem_above hdir
  rw [Path.joined_append hne hrest]
  apply isIgnored_below h
  exact Path.exists_mem_joined_of_solid hrest (fun n hn => hsolid n (List.mem_append_right dir hn))

theorem survives_of_solid (patterns : List IgnorePattern) {file : List Text}
    (hsolid : ∀ n ∈ file, Path.Solid n) :
    survives patterns file =
      (outsideVersionControl file && !isIgnored patterns (Path.joined file) false) := by
  rw [Bool.eq_iff_iff, survives, outsideVersionControl]
  simp only [Bool.and_eq_true, List.all_eq_true, Bool.not_eq_true']
  apply and_congr_left
  intro hfile
  apply forall₂_congr
  intro dir hdir
  have hd : isIgnored patterns (Path.joined dir) true = false := by
    rw [← Bool.not_eq_true]
    intro h
    rw [isIgnored_of_above hsolid hdir h false] at hfile
    cases hfile
  simp [enters, hd]

/-- The files that a walk opens are all those outside of version control data that no pattern
ignores. Whatever lies below an ignored directory is ignored itself. -/
theorem opened_eq_filter (plan : WalkPlan) (root : Text) (d : Folder)
    (hsolid : d.AllNames Path.Solid)
    (hserves : plan.access.Serves plan.encoding root d) :
    (plan.run root).opened =
        (d.files.filter (fun f => outsideVersionControl f.1 &&
          !isIgnored plan.patterns (Path.joined f.1) false)).map
            (fun f => Path.below root f.1) ∧
      ∀ (patterns : List IgnorePattern) (dir : Text) (names : List Text), names ≠ [] →
        (∀ n ∈ names, Path.Solid n) → isIgnored patterns dir true = true →
        ∀ isDir, isIgnored patterns (dir ++ '/' :: Path.joined names) isDir = true := by
  have hplain : d.AllNames Path.Plain := hsolid.imp (fun _ h => h.1)
  refine ⟨?_, ?_⟩
  · obtain ⟨-, hopened, -⟩ := WalkPlan.run_of_serves hserves
    rw [hopened, plan.kept_of_plain hplain, Folder.survivors]
    congr 1
    apply List.filter_congr
    intro f hf
    exact survives_of_solid plan.patterns (Folder.names_of_mem_files hsolid hf).2
  · intro patterns dir names hne hnames hdir isDir
    exact isIgnored_below hdir (Path.exists_mem_joined_of_solid hne hnames) isDir

theorem opened_eq_filter_notedFolder :
    notedFolder.AllNames Path.Solid ∧
      notedPlan.access.Serves notedPlan.encoding "/repo".toList notedFolder ∧
      (notedPlan.run "/repo".toList).opened =
        ["/repo/lib/b.py", "/repo/s.c"].map String.toList ∧
      isIgnored notedPlan.patterns "out".toList true = true ∧
      isIgnored notedPlan.patterns "out/c.py".toList false = true := by
  have hsolid : notedFolder.AllNames Path.Solid := by decide
  have hout : isIgnored notedPlan.patterns "out".toList true = true := by decide
  obtain ⟨hopened, hbelow⟩ :=
    opened_eq_filter notedPlan "/repo".toList notedFolder hsolid serves_notedFolder
  refine ⟨hsolid, serves_notedFolder, ?_, hout, ?_⟩
  · rw [hopened]
    decide
  · exact hbelow _ _ ["c.py".toList] (by decide) (by decide) hout false

end CommentTags
