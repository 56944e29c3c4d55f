import CommentTags.Proofs.File.Names
import CommentTags.Proofs.File.Writing
import CommentTags.Proofs.Text.Split

namespace CommentTags

namespace Node

def isLink : Node → Bool
  | .link _ => true
  | _ => false

mutual

def bare : Node → Node
  | .dir es => .dir (bareEntries es)
  | n => n

def bareEntries : List (Text × Node) → List (Text × Node)
  | [] => []
  | (name, n) :: es =>
    if n.isLink then bareEntries es else (name, n.bare) :: bareEntries es

end

theorem bareEntries_append (es more : List (Text × Node)) :
    bareEntries (es ++ more) = bareEntries es ++ bareEntries more := by
  induction es with
  | nil => rfl
  | cons e es ih =>
    rw [List.cons_append, bareEntries, bareEntries, ih]
    split <;> rfl

theorem lookup_bareEntries {es : List (Text × Node)} {name : Text} {c : Node}
    (hc : es.lookup name = some c) (hlink : c.isLink = false) :
    (bareEntries es).lookup name = some c.bare := by
  induction es with
  | nil => cases hc
  | cons e es ih =>
    obtain ⟨k, v⟩ := e
    rw [List.lookup_cons] at hc
    rw [bareEntries]
    cases hname : name == k with
    | true =>
      rw [hname] at hc
      obtain rfl := Option.some.inj hc
      simp [hlink, List.lookup_cons, hname]
    | false =>
      rw [hname] at hc
      split
      · exact ih hc
      · rw [List.lookup_cons, hname]
        exact ih hc

theorem at?_bare {n m : Node} {path : List Text} (hm : n.at? path = some m)
    (hlink : m.isLink = false) : n.bare.at? path = some m.bare := by
  induction path generalizing n with
  | nil =>
    obtain rfl := Option.some.inj hm
    rfl
  | cons name rest ih =>
    obtain ⟨c, hc, hrest⟩ := Option.bind_eq_some_iff.mp hm
    obtain ⟨es, rfl⟩ := exists_dir_of_child? hc
    have hdir : c.isLink = false := by
      cases rest with
      | nil =>
        obtain rfl := Option.some.inj hrest
        exact hlink
      | cons name rest =>
        obtain ⟨c', hc', -⟩ := Option.bind_eq_some_iff.mp hrest
        obtain ⟨es', rfl⟩ := exists_dir_of_child? hc'
        rfl
    have hchild : (bareEntries es).lookup name = some c.bare := lookup_bareEntries hc hdir
    rw [bare, at?, child?, entries, hchild]
    exact ih hrest

section Insert

variable {n c c' : Node} {name target : Text} {es : List (Text × Node)}

theorem setEntry_of_lookup_eq_none (h : es.lookup name = none) :
    setEntry name c es = es ++ [(name, c)] := by
  induction es with
  | nil => rfl
  | cons e es ih =>
    obtain ⟨k, v⟩ := e
    rw [List.lookup_cons] at h
    cases hname : name == k with
    | true => simp [hname] at h
    | false =>
      rw [hname] at h
      have hk : k ≠ name := fun hk => by simp [hk] at hname
      rw [setEntry, if_neg hk, ih h, List.cons_append]

theorem bareEntries_setEntry (hc : es.lookup name = some c) (hlink : c'.isLink = c.isLink)
    (hbare : c'.bare = c.bare) : bareEntries (setEntry name c' es) = bareEntries es := by
  induction es with
  | nil => cases hc
  | cons e es ih =>
    obtain ⟨k, v⟩ := e
    rw [List.lookup_cons] at hc
    by_cases hk : k = name
    · subst hk
      rw [beq_self_eq_true] at hc
      obtain rfl := Option.some.inj hc
      rw [setEntry, if_pos rfl, bareEntries, bareEntries, hlink, hbare]
    · have hname : (name == k) = false := beq_eq_false_iff_ne.mpr (Ne.symm hk)
      rw [hname] at hc
      rw [setEntry, if_neg hk, bareEntries, bareEntries, ih hc]

theorem isLink_of_at?_dir {path : List Text} (h : n.at? path = some (.dir es)) :
    n.isLink = false := by
  cases path with
  | nil =>
    obtain rfl := Option.some.inj h
    rfl
  | cons name rest =>
    obtain ⟨c, hc, -⟩ := Option.bind_eq_some_iff.mp h
    obtain ⟨es', rfl⟩ := exists_dir_of_child? hc
    rfl

theorem isLink_insert (node : Node) {path : List Text} (h : path ≠ []) :
    (insert node path n).isLink = false := by
  cases path with
  | nil => exact absurd rfl h
  | cons name rest => rfl

theorem bare_insert_link {dir : List Text} (hdir : n.at? dir = some (.dir es))
    (hunused : n.at? (dir ++ [name]) = none) :
    (insert (.link target) (dir ++ [name]) n).bare = n.bare := by
  induction dir generalizing n with
  | nil =>
    obtain rfl := Option.some.inj hdir
    have hnone : es.lookup name = none := by
      cases hc : es.lookup name with
      | none => rfl
      | some c => simp [at?, child?, entries, hc] at hunused
    rw [List.nil_append, insert, insert, bare, bare, entries, setEntry_of_lookup_eq_none hnone,
      bareEntries_append]
    simp [bareEntries, isLink]
  | cons first dir ih =>
    obtain ⟨c, hc, hrest⟩ := Option.bind_eq_some_iff.mp hdir
    obtain ⟨ds, rfl⟩ := exists_dir_of_child? hc
    have hinner : c.at? (dir ++ [name]) = none := by
      rw [List.cons_append, at?, hc] at hunused
      exact hunused
    have hlink : (insert (.link target) (dir ++ [name]) c).isLink = c.isLink := by
      rw [isLink_insert _ (by simp), isLink_of_at?_dir hrest]
    rw [List.cons_append, insert, hc, bare, bare]
    exact congrArg Node.dir (bareEntries_setEntry hc hlink (ih hrest hinner))

theorem mem_setEntry {e : Text × Node} (he : e ∈ setEntry name c es) : e = (name, c) ∨ e ∈ es := by
  induction es with
  | nil => exact .inl (List.mem_singleton.mp he)
  | cons first es ih =>
    obtain ⟨k, v⟩ := first
    by_cases hk : k = name
    · rw [setEntry, if_pos hk, hk] at he
      exact (List.mem_cons.mp he).imp_right (List.mem_cons_of_mem _)
    · rw [setEntry, if_neg hk] at he
      rcases List.mem_cons.mp he with rfl | he
      · exact .inr List.mem_cons_self
      · exact (ih he).imp_right (List.mem_cons_of_mem _)

theorem nodup_setEntry (h : (es.map Prod.fst).Nodup) :
    ((setEntry name c es).map Prod.fst).Nodup := by
  induction es with
  | nil => simp [setEntry]
  | cons first es ih =>
    obtain ⟨k, v⟩ := first
    by_cases hk : k = name
    · rw [setEntry, if_pos hk]
      exact h
    · rw [List.map_cons, List.nodup_cons] at h
      rw [setEntry, if_neg hk, List.map_cons, List.nodup_cons]
      refine ⟨fun hmem => ?_, ih h.2⟩
      obtain ⟨e, he, hek⟩ := List.mem_map.mp hmem
      rcases mem_setEntry he with rfl | he
      · exact hk hek.symm
      · exact h.1 (List.mem_map.mpr ⟨e, he, hek⟩)

theorem WellNamed.insert {node : Node} (hnode : node.WellNamed) {path : List Text}
    (hpath : ∀ name ∈ path, Path.IsName name) (h : n.WellNamed) :
    (Node.insert node path n).WellNamed := by
  induction path generalizing n with
  | nil => exact hnode
  | cons name rest ih =>
    have hinner : (Node.insert node rest ((n.child? name).getD (.dir []))).WellNamed := by
      refine ih (fun other hother => hpath other (List.mem_cons_of_mem _ hother)) ?_
      cases hc : n.child? name with
      | some c => exact h.child? hc
      | none => exact .dir List.nodup_nil (by simp) (by simp)
    have hentries : (Node.dir n.entries).WellNamed := by
      cases h with
      | dir hnodup hnames hes => exact .dir hnodup hnames hes
      | file bytes => exact .dir List.nodup_nil (by simp [entries]) (by simp [entries])
      | link target => exact .dir List.nodup_nil (by simp [entries]) (by simp [entries])
    rw [Node.insert]
    cases hentries with
    | dir hnodup hnames hes =>
      refine .dir (nodup_setEntry hnodup) ?_ ?_
      · intro e he
        rcases mem_setEntry he with rfl | he
        · exact hpath _ List.mem_cons_self
        · exact hnames e he
      · intro e he
        rcases mem_setEntry he with rfl | he
        · exact hinner
        · exact hes e he

theorem WellNamed.isName_of_at? {m : Node} {path : List Text} (h : n.WellNamed)
    (hm : n.at? path = some m) : ∀ name ∈ path, Path.IsName name := by
  induction path generalizing n with
  | nil => simp
  | cons first rest ih =>
    obtain ⟨c, hc, hrest⟩ := Option.bind_eq_some_iff.mp hm
    have hfirst : Path.IsName first := by
      have hmem := mem_of_child? hc
      cases h with
      | file bytes => cases hmem
      | link target => cases hmem
      | dir _ hnames _ => exact hnames _ hmem
    intro name hname
    rcases List.mem_cons.mp hname with rfl | hname
    · exact hfirst
    · exact ih (h.child? hc) hrest name hname

end Insert

end Node

namespace Disk

/-- A disk to which symbolic links were added, each in a directory at a name that it did not use. -/
inductive Linked (d : Disk) : Disk → Prop
  | refl : Linked d d
  | add {d' : Disk} (h : Linked d d') {dir : List Text} {name : Text} (target : Text)
    (hname : Path.IsName name) (hdir : d'.IsDirAt dir)
    (hunused : d'.root.at? (dir ++ [name]) = none) :
    Linked d (d'.put (dir ++ [name]) (.link target))

namespace Linked

variable {d d' : Disk}

theorem stands (h : d.Linked d') : d.Stands d' := by
  induction h with
  | refl => exact Stands.refl d
  | @add mid h dir name target hname hdir hunused ih =>
    refine ih.trans ⟨rfl, fun q m hm => ?_⟩
    have hne : q ≠ dir ++ [name] := fun hq => by
      rw [hq, hunused] at hm
      cases hm
    obtain ⟨es, hes⟩ := hdir
    have hkept : mid.Keeps (mid.put (dir ++ [name]) (.link target)) q :=
      keeps_put (Node.open_of_missing hes hunused) ⟨es, hes⟩ rfl hne
    rw [Keeps, hm] at hkept
    exact hkept.becomes

theorem bare_root (h : d.Linked d') : d'.root.bare = d.root.bare := by
  induction h with
  | refl => rfl
  | add h target hname hdir hunused ih =>
    obtain ⟨es, hes⟩ := hdir
    exact (Node.bare_insert_link hes hunused).trans ih

theorem wellNamed (hnamed : d.root.WellNamed) (h : d.Linked d') : d'.root.WellNamed := by
  induction h with
  | refl => exact hnamed
  | add h target hname hdir hunused ih =>
    obtain ⟨es, hes⟩ := hdir
    refine Node.WellNamed.insert (.link target) (fun other hother => ?_) ih
    rcases List.mem_append.mp hother with hother | hother
    · exact ih.isName_of_at? hes other hother
    · obtain rfl := List.mem_singleton.mp hother
      exact hname

theorem exists_dir (h : d.Linked d') {path : Text} {q : List Text} {es : List (Text × Node)}
    (hplace : d.resolve true path = .ok (.found q (.dir es))) :
    ∃ es', d'.resolve true path = .ok (.found q (.dir es')) ∧
      Node.bareEntries es' = Node.bareEntries es := by
  have hat : d.root.at? q = some (.dir es) := at?_of_resolve hplace
  obtain ⟨es', hes'⟩ : ∃ es', d'.root.at? q = some (.dir es') := h.stands.becomes q _ hat
  refine ⟨es', ?_, ?_⟩
  · have hclear : Place.Clear d' (.found q (.dir es)) := trivial
    rw [resolve_of_stands h.stands hclear hplace, Place.within, Place.names, hes']
  · have hbare := Node.at?_bare hes' rfl
    rw [h.bare_root, Node.at?_bare hat rfl] at hbare
    exact (Node.dir.inj (Option.some.inj hbare)).symm

end Linked

section Listing

variable {d : Disk} {es : List (Text × Node)}

def listed? : Text × Node → Option Entry
  | (name, .dir _) => some ⟨name, true⟩
  | (name, .file _) => some ⟨name, false⟩
  | (_, .link _) => none

theorem isLink_of_listed? {name : Text} {n : Node} {e : Entry}
    (h : listed? (name, n) = some e) : n.isLink = false := by
  cases n with
  | file bytes => rfl
  | dir inner => rfl
  | link target => cases h

theorem entriesOf_false (dir : Text) (es : List (Text × Node)) :
    d.entriesOf false dir es = .ok (es.filterMap listed?) := by
  induction es with
  | nil => rfl
  | cons e es ih =>
    obtain ⟨name, n⟩ := e
    cases n <;> rw [entriesOf, ih] <;> rfl

theorem listDir_of_readDir {dir : Text} (h : d.readDir dir = .ok es) :
    d.listDir false dir = .ok (Entry.sort (es.filterMap listed?).reverse) := by
  rw [listDir, h, ← List.filterMap_reverse]
  dsimp only
  rw [entriesOf_false]
  rfl

theorem filterMap_bareEntries (es : List (Text × Node)) :
    (Node.bareEntries es).filterMap listed? = es.filterMap listed? := by
  induction es with
  | nil => rfl
  | cons e es ih =>
    obtain ⟨name, n⟩ := e
    rw [Node.bareEntries]
    cases n with
    | file bytes => simp [Node.isLink, Node.bare, listed?, ih]
    | dir inner => simp [Node.isLink, Node.bare, listed?, ih]
    | link target => simp [Node.isLink, List.filterMap_cons, listed?, ih]

theorem exists_of_listed {e : Entry} (hnamed : (Node.dir es).WellNamed)
    (he : e ∈ es.filterMap listed?) :
    ∃ c, es.lookup e.name = some c ∧ listed? (e.name, c) = some e := by
  obtain ⟨⟨name, c⟩, hc, hlisted⟩ := List.mem_filterMap.mp he
  obtain rfl : name = e.name := by
    cases c <;> simp [listed?] at hlisted <;> rw [← hlisted]
  cases hnamed with
  | dir hnodup _ _ => exact ⟨c, Text.lookup_of_mem hnodup hc, hlisted⟩

end Listing

section Join

variable {d : Disk} {q : List Text} {es : List (Text × Node)} {name : Text} {c : Node}

def namedSteps (path : Text) : List Text := (path.splitOn '/').filter (fun s => !s.isEmpty)

theorem namedSteps_append (s t : Text) :
    namedSteps (s ++ '/' :: t) = namedSteps s ++ namedSteps t := by
  unfold namedSteps
  rw [Text.splitOn_append, List.filter_append]

theorem namedSteps_of_plain (h : Path.Plain name) : namedSteps name = [name] := by
  unfold namedSteps
  rw [Text.splitOn_of_not_mem h.2]
  simp [h.1]

theorem steps_append_name (h : Path.Plain name) (s : Text) :
    steps (s ++ '/' :: name) = namedSteps s ++ [name] := by
  have hlast : (s ++ '/' :: name).getLast? ≠ some '/' := by
    rw [← List.singleton_append, ← List.append_assoc, List.getLast?_append_of_ne_nil _ h.1]
    exact fun hlast => h.2 (List.mem_of_getLast? hlast)
  change namedSteps (s ++ '/' :: name) ++ _ = _
  rw [namedSteps_append, namedSteps_of_plain h]
  simp only [hlast, decide_false, Bool.and_false, Bool.false_eq_true, if_false, List.append_nil]

theorem steps_join {dir : Text} (hdir : dir ≠ []) (h : Path.Plain name) :
    ∃ todo dots, (∀ s ∈ dots, s = ['.']) ∧ steps dir = todo ++ dots ∧
      steps (Path.join dir name) = todo ++ [name] := by
  rw [Path.join_of_plain dir h, Path.base]
  by_cases hlast : dir.getLast? = some '/'
  · -- The step that the slash at the end asks for is not made once a name stands behind it.
    obtain ⟨front, rfl⟩ := List.getLast?_eq_some_iff.mp hlast
    have hfront : namedSteps (front ++ ['/']) = namedSteps front := by
      rw [namedSteps_append, show namedSteps [] = [] from rfl, List.append_nil]
    refine ⟨namedSteps front, if 1 < (front ++ ['/']).length then [['.']] else [], ?_, ?_, ?_⟩
    · intro s hs
      split at hs
      · exact List.mem_singleton.mp hs
      · cases hs
    · change namedSteps (front ++ ['/']) ++ _ = _
      simp only [hfront, hlast, decide_true, Bool.and_true, decide_eq_true_eq]
    · simp only [hlast, decide_true, Bool.or_true, if_true]
      rw [List.append_assoc]
      exact steps_append_name h front
  · refine ⟨namedSteps dir, [], by simp, ?_, ?_⟩
    · change namedSteps dir ++ _ = _
      simp [hlast]
    · simp only [hlast, List.isEmpty_eq_false_iff.mpr hdir, decide_false, Bool.or_false,
        Bool.false_eq_true, if_false]
      rw [List.append_assoc]
      exact steps_append_name h dir

theorem eq_of_locateBy_dots {follow : Bool} {dir dots : List Text} {n : Node}
    {jump : List Text → Text → List Text → Except Int Place} (hdots : ∀ s ∈ dots, s = ['.'])
    (h : d.locateBy follow jump dir dots = .ok (.found q n)) : dir = q := by
  induction dots with
  | nil =>
    rw [locateBy] at h
    split at h
    · cases h
      rfl
    · cases h
  | cons s dots ih =>
    obtain rfl := hdots s List.mem_cons_self
    rw [locateBy, if_pos rfl] at h
    exact ih (fun s hs => hdots s (List.mem_cons_of_mem _ hs)) h

theorem locateBy_step {result : Except Int Place} {dots : List Text}
    {jump : List Text → Text → List Text → Except Int Place} (hdots : ∀ s ∈ dots, s = ['.'])
    (hlast : d.locateBy true jump q [name] = result)
    (hjump : ∀ dir target rest, jump dir target (rest ++ dots) = .ok (.found q (.dir es)) →
      jump dir target (rest ++ [name]) = result)
    {dir todo : List Text}
    (h : d.locateBy true jump dir (todo ++ dots) = .ok (.found q (.dir es))) :
    d.locateBy true jump dir (todo ++ [name]) = result := by
  induction todo generalizing dir with
  | nil =>
    obtain rfl := eq_of_locateBy_dots hdots h
    exact hlast
  | cons s todo ih =>
    rw [List.cons_append, locateBy] at h ⊢
    by_cases hdot : s = ['.']
    · rw [if_pos hdot] at h ⊢
      exact ih h
    · rw [if_neg hdot] at h ⊢
      by_cases hup : s = ['.', '.']
      · rw [if_pos hup] at h ⊢
        exact ih h
      · rw [if_neg hup] at h ⊢
        by_cases hlength : nameLimit < (Utf8.encode s).length
        · rw [if_pos hlength] at h
          cases h
        · rw [if_neg hlength] at h ⊢
          split at h
          · split at h <;> cases h
          · exact ih h
          · split at h <;> cases h
          · -- A link starts anew with its target and the steps behind it.
            simp only [Bool.not_true, Bool.and_false, Bool.false_eq_true, if_false] at h ⊢
            exact hjump _ _ _ h

theorem locate_step {result : Except Int Place} {dots : List Text}
    (hdots : ∀ s ∈ dots, s = ['.'])
    (hlast : ∀ links, d.locate true links q [name] = result) {links : ℕ} {dir todo : List Text}
    (h : d.locate true links dir (todo ++ dots) = .ok (.found q (.dir es))) :
    d.locate true links dir (todo ++ [name]) = result := by
  induction links generalizing dir todo with
  | zero => exact locateBy_step hdots (hlast 0) (fun _ _ _ hjump => by cases hjump) h
  | succ links ih =>
    refine locateBy_step hdots (hlast (links + 1)) (fun dir target rest hjump => ?_) h
    dsimp only at hjump ⊢
    split at hjump
    · cases hjump
    · rename_i htarget
      rw [if_neg htarget]
      rw [← List.append_assoc] at hjump ⊢
      exact ih hjump

def Place.ofEntry (dir : List Text) (name : Text) : Option Node → Place
  | some n => .found (dir ++ [name]) n
  | none => .missing dir name

def TooLong (dir name : Text) : Prop :=
  pathLimit < (Utf8.encode (Path.join dir name)).length ∨ nameLimit < (Utf8.encode name).length

theorem locate_name (hat : d.root.at? q = some (.dir es)) (hname : Path.IsName name)
    (hlink : ∀ c ∈ es.lookup name, c.isLink = false) (links : ℕ) :
    d.locate true links q [name] =
      if nameLimit < (Utf8.encode name).length then .error Failure.nameTooLong
      else .ok (.ofEntry q name (es.lookup name)) := by
  have hchild : (d.root.at? q).bind (·.child? name) = es.lookup name := by
    rw [hat]
    rfl
  have hfound : d.root.at? (q ++ [name]) = es.lookup name := by
    rw [Node.at?_append_singleton, hchild]
  have hstep : ∀ jump, d.locateBy true jump q [name] =
      if nameLimit < (Utf8.encode name).length then .error Failure.nameTooLong
      else .ok (.ofEntry q name (es.lookup name)) := by
    intro jump
    rw [locateBy, if_neg hname.dot, if_neg hname.dots, hchild]
    cases hentry : es.lookup name with
    | none => rfl
    | some c =>
      cases c with
      | file bytes => rfl
      | dir inner =>
        simp only [locateBy, hfound, hentry]
        rfl
      | link target => cases hlink _ hentry
  cases links with
  | zero => exact hstep _
  | succ links => exact hstep _

theorem resolve_join {dir : Text} (hplace : d.resolve true dir = .ok (.found q (.dir es)))
    (hname : Path.IsName name) (hlink : ∀ c ∈ es.lookup name, c.isLink = false) :
    d.resolve true (Path.join dir name) = .error Failure.nameTooLong ∧ TooLong dir name ∨
      d.resolve true (Path.join dir name) = .ok (.ofEntry q name (es.lookup name)) ∧
        ¬ TooLong dir name := by
  have hat : d.root.at? q = some (.dir es) := at?_of_resolve hplace
  unfold resolve at hplace ⊢
  split at hplace
  · cases hplace
  · rename_i hdir
    split at hplace
    · cases hplace
    · have hne : dir ≠ [] := fun hne => hdir (by simp [hne])
      have hstart := Path.head?_join hne hname.plain
      have hpath : ((Path.join dir name).isEmpty ||
          (Path.join dir name).contains Failure.zero) = false := by
        simp only [Bool.or_eq_true, List.contains_iff_mem, not_or] at hdir
        rw [Bool.or_eq_false_iff, List.isEmpty_eq_false_iff]
        refine ⟨Path.join_ne_nil hne hname.plain, ?_⟩
        rw [Bool.eq_false_iff, ne_eq, List.contains_iff_mem]
        exact fun hjoined => hdir.2 (hname.zero_mem_of_join hjoined)
      obtain ⟨todo, dots, hdots, hsteps, hjoin⟩ := steps_join hne hname.plain
      rw [hsteps] at hplace
      have hstep := locate_step hdots (locate_name hat hname hlink) hplace
      rw [hpath, if_neg Bool.false_ne_true, hstart, hjoin, hstep]
      unfold TooLong
      split
      · exact .inl ⟨rfl, .inl ‹_›⟩
      · split
        · exact .inl ⟨rfl, .inr ‹_›⟩
        · exact .inr ⟨rfl, by tauto⟩

theorem resolve_join_both {d' : Disk} {dir : Text} {q' : List Text} {es' : List (Text × Node)}
    {c' : Node} (hname : Path.IsName name)
    (hplace : d.resolve true dir = .ok (.found q (.dir es)))
    (hplace' : d'.resolve true dir = .ok (.found q' (.dir es')))
    (hc : es.lookup name = some c) (hlink : c.isLink = false)
    (hc' : es'.lookup name = some c') (hlink' : c'.isLink = false) :
    d.resolve true (Path.join dir name) = .error Failure.nameTooLong ∧
        d'.resolve true (Path.join dir name) = .error Failure.nameTooLong ∨
      d.resolve true (Path.join dir name) = .ok (.found (q ++ [name]) c) ∧
        d'.resolve true (Path.join dir name) = .ok (.found (q' ++ [name]) c') := by
  have hjoin := resolve_join hplace hname
  have hjoin' := resolve_join hplace' hname
  simp only [hc, hc', Option.mem_some_iff, forall_eq', Place.ofEntry] at hjoin hjoin'
  rcases hjoin hlink with ⟨h, hlong⟩ | ⟨h, hlong⟩
  · rcases hjoin' hlink' with ⟨h', -⟩ | ⟨-, hlong'⟩
    · exact .inl ⟨h, h'⟩
    · exact absurd hlong hlong'
  · rcases hjoin' hlink' with ⟨-, hlong'⟩ | ⟨h', -⟩
    · exact absurd hlong' hlong
    · exact .inr ⟨h, h'⟩

end Join

end Disk

end CommentTags
