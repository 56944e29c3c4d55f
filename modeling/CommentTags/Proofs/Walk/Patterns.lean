import CommentTags.Proofs.Walk.Result
import Mathlib.Data.List.Flatten

namespace CommentTags

theorem isIgnored_mono {ps qs : List IgnorePattern} (h : ∀ p ∈ ps, p.negated = false → p ∈ qs)
    {path : Text} {isDir : Bool} (hp : isIgnored ps path isDir = true) :
    isIgnored qs path isDir = true := by
  rw [isIgnored_iff] at hp ⊢
  obtain ⟨p, hmem, hneg, hsel⟩ := hp
  exact ⟨p, h p hmem hneg, hneg, hsel⟩

namespace WalkEvent

def touches : WalkEvent → Bool
  | .pruned _ => false
  | .skipped _ => false
  | _ => true

theorem eq_left_out_of_not_touches {e : WalkEvent} (h : e.touches = false) :
    ∃ path, e = .pruned path ∨ e = .skipped path := by
  cases e with
  | pruned path => exact ⟨path, .inl rfl⟩
  | skipped path => exact ⟨path, .inr rfl⟩
  | listed dir => cases h
  | opened file => cases h
  | dropped record => cases h
  | scanned path tags => cases h

end WalkEvent

namespace WalkRun

def touched (r : WalkRun) : List WalkEvent := r.events.filter WalkEvent.touches

theorem flatMap_touched {β : Type} {f : WalkEvent → List β}
    (hf : ∀ path, f (.pruned path) = [] ∧ f (.skipped path) = []) (r : WalkRun) :
    r.touched.flatMap f = r.events.flatMap f := by
  unfold touched
  induction r.events with
  | nil => rfl
  | cons e es ih =>
    cases he : e.touches with
    | true => rw [List.filter_cons_of_pos he, List.flatMap_cons, List.flatMap_cons, ih]
    | false =>
      have hnone : f e = [] := by
        obtain ⟨path, rfl | rfl⟩ := WalkEvent.eq_left_out_of_not_touches he
        · exact (hf path).1
        · exact (hf path).2
      rw [List.filter_cons_of_neg (by simp [he]), List.flatMap_cons, hnone, List.nil_append, ih]

theorem sublist_of_touched {β : Type} {r whole : WalkRun}
    (h : r.touched.Sublist whole.touched) {f : WalkEvent → List β}
    (hf : ∀ path, f (.pruned path) = [] ∧ f (.skipped path) = []) :
    (r.events.flatMap f).Sublist (whole.events.flatMap f) := by
  rw [← flatMap_touched hf, ← flatMap_touched hf]
  exact h.flatMap f

theorem result_eq_ok_iff (r : WalkRun) (root : Text) (tags : List Tag) :
    r.result root = .ok tags ↔ r.failure = none ∧ r.tags = tags := by
  unfold result
  cases r.failure with
  | none => simp
  | some failure =>
    cases hs : failure.isSystem <;> simp [hs]

/-- Where the whole run completes, this one does too, and touches a part of the same. -/
def Within (r whole : WalkRun) : Prop :=
  whole.failure = none → r.failure = none ∧ r.touched.Sublist whole.touched

theorem Within.refl (r : WalkRun) : r.Within r := fun h => ⟨h, List.Sublist.refl _⟩

theorem within_of_untouched {e : WalkEvent} (he : e.touches = false) (whole : WalkRun) :
    (⟨[e], none⟩ : WalkRun).Within whole := by
  intro _
  refine ⟨rfl, ?_⟩
  rw [touched, List.filter_singleton, he]
  exact List.nil_sublist _

theorem touched_andThen {first : WalkRun} (h : first.failure = none) (second : WalkRun) :
    (first.andThen second).touched = first.touched ++ second.touched := by
  simp [andThen, h, touched]

theorem failure_andThen {first : WalkRun} (h : first.failure = none) (second : WalkRun) :
    (first.andThen second).failure = second.failure := by
  simp [andThen, h]

theorem failure_of_andThen {first second : WalkRun}
    (h : (first.andThen second).failure = none) : first.failure = none := by
  unfold andThen at h
  split at h
  · exact h
  · assumption

theorem Within.andThen {a b c d : WalkRun} (hab : a.Within b) (hcd : c.Within d) :
    (a.andThen c).Within (b.andThen d) := by
  intro h
  have hb := failure_of_andThen h
  rw [failure_andThen hb] at h
  obtain ⟨ha, hleft⟩ := hab hb
  obtain ⟨hc, hright⟩ := hcd h
  rw [failure_andThen ha, touched_andThen ha, touched_andThen hb]
  exact ⟨hc, hleft.append hright⟩

theorem within_all {α : Type} {f g : α → WalkRun} (l : List α) (h : ∀ x, (f x).Within (g x)) :
    (all (l.map f)).Within (all (l.map g)) := by
  induction l with
  | nil => exact Within.refl _
  | cons x l ih => exact (h x).andThen ih

end WalkRun

namespace WalkPlan

variable {plan : WalkPlan} {qs : List IgnorePattern}

def withPatterns (plan : WalkPlan) (qs : List IgnorePattern) : WalkPlan :=
  { plan with patterns := qs }

section More

variable (h : ∀ path isDir, isIgnored plan.patterns path isDir = true →
  isIgnored qs path isDir = true)
include h

theorem prunes_withPatterns {name path : Text} (hp : plan.prunes name path = true) :
    (plan.withPatterns qs).prunes name path = true := by
  rw [prunes, Bool.or_eq_true] at hp ⊢
  exact hp.imp id (h path true)

theorem visitEntry_within {enter whole : (dir path : Text) → WalkRun}
    (henter : ∀ dir path, (enter dir path).Within (whole dir path)) (dir path : Text)
    (e : Entry) :
    ((plan.withPatterns qs).visitEntry enter dir path e).Within
      (plan.visitEntry whole dir path e) := by
  -- what more patterns leave out is within anything, and what they leave in was left in before
  unfold visitEntry
  cases e.isDir with
  | true =>
    simp only [↓reduceIte]
    by_cases hq : (plan.withPatterns qs).prunes e.name (Path.join path e.name) = true
    · rw [if_pos hq]
      exact WalkRun.within_of_untouched rfl _
    · rw [if_neg hq, if_neg (fun hp => hq (prunes_withPatterns h hp))]
      exact henter _ _
  | false =>
    simp only [Bool.false_eq_true, ↓reduceIte]
    by_cases hq : isIgnored (plan.withPatterns qs).patterns (Path.join path e.name) false = true
    · rw [if_pos hq]
      exact WalkRun.within_of_untouched rfl _
    · rw [if_neg hq, if_neg (fun hp => hq (h _ _ hp))]
      exact WalkRun.Within.refl _

theorem visitDir_within (depth : ℕ) (dir path : Text) :
    ((plan.withPatterns qs).visitDir depth dir path).Within (plan.visitDir depth dir path) := by
  induction depth generalizing dir path with
  | zero => exact WalkRun.Within.refl _
  | succ depth ih =>
    simp only [visitDir, withPatterns]
    split
    · exact WalkRun.Within.refl _
    · rename_i entries _
      exact (WalkRun.Within.refl _).andThen
        (WalkRun.within_all entries (fun e => visitEntry_within h ih dir path e))

theorem run_within (root : Text) : ((plan.withPatterns qs).run root).Within (plan.run root) :=
  visitDir_within h plan.access.depth root []

end More

theorem visitDir_congr
    (h : ∀ path isDir, isIgnored qs path isDir = isIgnored plan.patterns path isDir)
    (depth : ℕ) (dir path : Text) :
    (plan.withPatterns qs).visitDir depth dir path = plan.visitDir depth dir path := by
  induction depth generalizing dir path with
  | zero => rfl
  | succ depth ih =>
    have hentry : (plan.withPatterns qs).visitEntry ((plan.withPatterns qs).visitDir depth) =
        plan.visitEntry (plan.visitDir depth) := by
      funext dir path e
      have hdir : (plan.withPatterns qs).visitDir depth = plan.visitDir depth := by
        funext dir path
        exact ih dir path
      simp only [visitEntry, prunes, hdir]
      simp only [withPatterns, h]
      rfl
    simp only [visitDir, hentry]
    rfl

end WalkPlan

/-- A walk whose patterns take in all those that count completes wherever the other one does, and
opens, lists and finds a part of the same in the same order. If both sets of patterns take in all
those of the other that count, the runs are the same. -/
theorem walk_of_more_patterns (plan : WalkPlan) (qs : List IgnorePattern) (root : Text)
    (hmore : ∀ p ∈ plan.patterns, p.negated = false → p ∈ qs) :
    (∀ tags, walk plan root = .ok tags →
      ∃ fewer, walk (plan.withPatterns qs) root = .ok fewer ∧ fewer.Sublist tags ∧
        ((plan.withPatterns qs).run root).opened.Sublist (plan.run root).opened ∧
        ((plan.withPatterns qs).run root).listed.Sublist (plan.run root).listed) ∧
      ((∀ q ∈ qs, q.negated = false → q ∈ plan.patterns) →
        (plan.withPatterns qs).run root = plan.run root ∧
          walk (plan.withPatterns qs) root = walk plan root) := by
  have hignored : ∀ path isDir, isIgnored plan.patterns path isDir = true →
      isIgnored qs path isDir = true := fun _ _ => isIgnored_mono hmore
  constructor
  · intro tags htags
    obtain ⟨hdone, hfound⟩ := ((plan.run root).result_eq_ok_iff root tags).mp htags
    obtain ⟨hfailure, htouched⟩ := WalkPlan.run_within hignored root hdone
    refine ⟨((plan.withPatterns qs).run root).tags, ?_, ?_, ?_, ?_⟩
    · exact (WalkRun.result_eq_ok_iff _ root _).mpr ⟨hfailure, rfl⟩
    · rw [← hfound]
      exact WalkRun.sublist_of_touched htouched (fun _ => ⟨rfl, rfl⟩)
    · rw [WalkRun.opened, WalkRun.opened, List.filterMap_eq_flatMap_toList,
        List.filterMap_eq_flatMap_toList]
      exact WalkRun.sublist_of_touched htouched (fun _ => ⟨rfl, rfl⟩)
    · rw [WalkRun.listed, WalkRun.listed, List.filterMap_eq_flatMap_toList,
        List.filterMap_eq_flatMap_toList]
      exact WalkRun.sublist_of_touched htouched (fun _ => ⟨rfl, rfl⟩)
  · intro hfewer
    have hrun : (plan.withPatterns qs).run root = plan.run root := by
      apply WalkPlan.visitDir_congr
      intro path isDir
      exact Bool.eq_iff_iff.mpr ⟨isIgnored_mono hfewer, hignored path isDir⟩
    rw [walk, walk, hrun]
    exact ⟨rfl, rfl⟩

def laxPlan : WalkPlan :=
  notedPlan.withPatterns
    [⟨"*.log".toList, .dirs :: .run :: ".log".toList.map .char, false, false⟩,
      ⟨"!b.log".toList, .dirs :: "b.log".toList.map .char, false, true⟩]

theorem walk_of_more_patterns_notedFolder :
    (∀ p ∈ laxPlan.patterns, p.negated = false → p ∈ notedPlan.patterns) ∧
      ∃ tags fewer, walk laxPlan "/repo".toList = .ok tags ∧
        walk notedPlan "/repo".toList = .ok fewer ∧ fewer.Sublist tags ∧
        tags.map Tag.title = ["name", "drop", "split"].map String.toList ∧
        fewer.map Tag.title = ["name", "split"].map String.toList := by
  have hmore : ∀ p ∈ laxPlan.patterns, p.negated = false → p ∈ notedPlan.patterns := by decide
  have hserves : laxPlan.access.Serves laxPlan.encoding "/repo".toList notedFolder :=
    serves_notedFolder
  obtain ⟨hdone, -, -, htags⟩ := WalkPlan.run_of_serves hserves
  obtain ⟨-, -, -, hfewer⟩ := WalkPlan.run_of_serves serves_notedFolder
  have hwalk : walk laxPlan "/repo".toList = .ok (laxPlan.run "/repo".toList).tags :=
    (WalkRun.result_eq_ok_iff _ _ _).mpr ⟨hdone, rfl⟩
  obtain ⟨fewer, hmoreWalk, hsub, -⟩ :=
    (walk_of_more_patterns laxPlan notedPlan.patterns "/repo".toList hmore).1 _ hwalk
  have hfewerTags : (notedPlan.run "/repo".toList).tags = fewer :=
    ((WalkRun.result_eq_ok_iff _ _ _).mp hmoreWalk).2
  refine ⟨hmore, _, fewer, hwalk, hmoreWalk, hsub, ?_, ?_⟩
  · rw [htags]
    decide
  · rw [← hfewerTags, hfewer]
    decide

end CommentTags
