import CommentTags.File.Disk
import Mathlib.Data.List.Basic

/-!
Disks that grow. What is put at a file, or at a name that its directory does not hold, leaves all
directories and links where they are, so a path that leads somewhere still leads there.
-/

namespace CommentTags

namespace Node

theorem lookup_setEntry (name : Text) (node : Node) (es : List (Text × Node)) :
    (setEntry name node es).lookup name = some node := by
  induction es with
  | nil => simp [setEntry]
  | cons e es ih =>
    obtain ⟨k, v⟩ := e
    by_cases hk : k = name
    · simp [setEntry, hk]
    · have hname : (name == k) = false := beq_eq_false_iff_ne.mpr (Ne.symm hk)
      simp [setEntry, hk, List.lookup_cons, hname, ih]

theorem lookup_setEntry_of_ne {name other : Text} (h : other ≠ name) (node : Node)
    (es : List (Text × Node)) : (setEntry name node es).lookup other = es.lookup other := by
  have hother : (other == name) = false := beq_eq_false_iff_ne.mpr h
  induction es with
  | nil => simp [setEntry, List.lookup_cons, hother]
  | cons e es ih =>
    obtain ⟨k, v⟩ := e
    by_cases hk : k = name
    · simp [setEntry, hk, List.lookup_cons, hother]
    · simp [setEntry, hk, List.lookup_cons, ih]

variable {n node : Node} {name other : Text} {path rest : List Text}

theorem child?_insert : (insert node (name :: rest) n).child? name =
    some (insert node rest ((n.child? name).getD (.dir []))) :=
  lookup_setEntry name _ _

theorem child?_insert_of_ne (h : other ≠ name) :
    (insert node (name :: rest) n).child? other = n.child? other :=
  lookup_setEntry_of_ne h _ _

theorem exists_dir_of_child? {c : Node} (h : n.child? name = some c) : ∃ es, n = .dir es := by
  cases n with
  | dir es => exact ⟨es, rfl⟩
  | file bytes => cases h
  | link target => cases h

theorem at?_insert : (insert node path n).at? path = some node := by
  induction path generalizing n with
  | nil => rfl
  | cons name rest ih => rw [at?, child?_insert, Option.bind_some, ih]

/-- A path where something other than a directory can be put: there is no directory, and all that
leads to it are directories or are missing. -/
def Open : List Text → Node → Prop
  | [], n => ∀ es, n ≠ .dir es
  | name :: rest, n => (∃ es, n = .dir es) ∧ ∀ c, n.child? name = some c → Open rest c

theorem at?_append (path more : List Text) :
    n.at? (path ++ more) = (n.at? path).bind (·.at? more) := by
  induction path generalizing n with
  | nil => rfl
  | cons name rest ih =>
    rw [List.cons_append, at?, at?]
    cases n.child? name with
    | none => rfl
    | some c => exact ih

theorem at?_append_singleton (path : List Text) (name : Text) :
    n.at? (path ++ [name]) = (n.at? path).bind (·.child? name) := by
  rw [at?_append]
  cases n.at? path with
  | none => rfl
  | some m => simp [at?]

theorem exists_dir_of_at?_append {m : Node} {path : List Text} {name : Text} {more : List Text}
    (h : n.at? (path ++ name :: more) = some m) : ∃ es, n.at? path = some (.dir es) := by
  rw [at?_append] at h
  cases hp : n.at? path with
  | none => rw [hp] at h; cases h
  | some c =>
    rw [hp, Option.bind_some, at?] at h
    obtain ⟨a, ha, -⟩ := Option.bind_eq_some_iff.mp h
    obtain ⟨es, rfl⟩ := exists_dir_of_child? ha
    exact ⟨es, rfl⟩

theorem open_of_at? {m : Node} (h : n.at? path = some m) (hm : ∀ es, m ≠ .dir es) :
    n.Open path := by
  induction path generalizing n with
  | nil =>
    obtain rfl := Option.some.inj h
    exact hm
  | cons name rest ih =>
    obtain ⟨c, hc, hrest⟩ := Option.bind_eq_some_iff.mp h
    refine ⟨exists_dir_of_child? hc, fun c' hc' => ?_⟩
    obtain rfl := Option.some.inj (hc.symm.trans hc')
    exact ih hrest

theorem open_of_missing {dir : List Text} {es : List (Text × Node)} (h : n.at? dir = some (.dir es))
    (hmissing : n.at? (dir ++ [name]) = none) : n.Open (dir ++ [name]) := by
  induction dir generalizing n with
  | nil =>
    obtain rfl := Option.some.inj h
    refine ⟨⟨es, rfl⟩, fun c hc => ?_⟩
    rw [List.nil_append, at?, hc] at hmissing
    cases hmissing
  | cons first dir ih =>
    obtain ⟨c, hc, hrest⟩ := Option.bind_eq_some_iff.mp h
    refine ⟨exists_dir_of_child? hc, fun c' hc' => ?_⟩
    obtain rfl := Option.some.inj (hc.symm.trans hc')
    rw [List.cons_append, at?, hc] at hmissing
    exact ih hrest hmissing

theorem exists_dir_at?_insert (hopen : n.Open path) {q : List Text} {es : List (Text × Node)}
    (hq : n.at? q = some (.dir es)) : ∃ es, (insert node path n).at? q = some (.dir es) := by
  induction path generalizing n q with
  | nil =>
    cases q with
    | nil => exact absurd (Option.some.inj hq) (hopen es)
    | cons other q =>
      obtain ⟨c, hc, -⟩ := Option.bind_eq_some_iff.mp hq
      obtain ⟨es', he⟩ := exists_dir_of_child? hc
      exact absurd he (hopen es')
  | cons name rest ih =>
    cases q with
    | nil => exact ⟨_, rfl⟩
    | cons other q =>
      obtain ⟨c, hc, hrest⟩ := Option.bind_eq_some_iff.mp hq
      by_cases he : other = name
      · subst he
        rw [at?, child?_insert, hc]
        exact ih (hopen.2 c hc) hrest
      · rw [at?, child?_insert_of_ne he, hc]
        exact ⟨es, hrest⟩

theorem at?_insert_of_ne (hopen : n.Open path) {q : List Text} (hne : q ≠ path) {m : Node}
    (hq : n.at? q = some m) (hm : ∀ es, m ≠ .dir es) : (insert node path n).at? q = some m := by
  induction path generalizing n q with
  | nil =>
    cases q with
    | nil => exact absurd rfl hne
    | cons other q =>
      obtain ⟨c, hc, -⟩ := Option.bind_eq_some_iff.mp hq
      obtain ⟨es', he⟩ := exists_dir_of_child? hc
      exact absurd he (hopen es')
  | cons name rest ih =>
    cases q with
    | nil =>
      obtain ⟨es, rfl⟩ := hopen.1
      exact absurd (Option.some.inj hq).symm (hm es)
    | cons other q =>
      obtain ⟨c, hc, hrest⟩ := Option.bind_eq_some_iff.mp hq
      by_cases he : other = name
      · subst he
        rw [at?, child?_insert, hc]
        exact ih (hopen.2 c hc) (fun h => hne (h ▸ rfl)) hrest
      · rw [at?, child?_insert_of_ne he, hc]
        exact hrest

def Becomes : Option Node → Option Node → Prop
  | none, after => ∀ target, after ≠ some (.link target)
  | some (.file _), after => ∃ bytes, after = some (.file bytes)
  | some (.dir _), after => ∃ es, after = some (.dir es)
  | some (.link target), after => after = some (.link target)

theorem becomes_refl (before : Option Node) : Becomes before before := by
  rcases before with _ | _ | _ | _
  · exact nofun
  · exact ⟨_, rfl⟩
  · exact ⟨_, rfl⟩
  · rfl

theorem Becomes.trans {before mid after : Option Node} (h : Becomes before mid)
    (h' : Becomes mid after) : Becomes before after := by
  rcases before with _ | _ | _ | _
  · intro target hafter
    subst hafter
    rcases mid with _ | _ | _ | _
    · exact h' target rfl
    · cases h'.choose_spec
    · cases h'.choose_spec
    · exact h _ rfl
  · obtain ⟨bytes, rfl⟩ := h
    exact h'
  · obtain ⟨es, rfl⟩ := h
    exact h'
  · obtain rfl : mid = _ := h
    exact h'

def IsKept : Option Node → Option Node → Prop
  | some (.dir _), after => ∃ es, after = some (.dir es)
  | before, after => after = before

theorem isKept_refl (before : Option Node) : IsKept before before := by
  rcases before with _ | _ | _ | _
  · rfl
  · rfl
  · exact ⟨_, rfl⟩
  · rfl

theorem IsKept.trans {before mid after : Option Node} (h : IsKept before mid)
    (h' : IsKept mid after) : IsKept before after := by
  rcases before with _ | _ | _ | _
  · obtain rfl : mid = _ := h
    exact h'
  · obtain rfl : mid = _ := h
    exact h'
  · obtain ⟨es, rfl⟩ := h
    exact h'
  · obtain rfl : mid = _ := h
    exact h'

theorem IsKept.becomes {before after : Option Node} (h : IsKept before after) :
    Becomes before after := by
  rcases before with _ | _ | _ | _
  · obtain rfl : after = _ := h
    exact nofun
  · exact ⟨_, h⟩
  · exact h
  · exact h

theorem at?_of_entries_eq_nil (hn : n.entries = []) (hpath : path ≠ []) : n.at? path = none := by
  cases path with
  | nil => exact absurd rfl hpath
  | cons name rest =>
    rw [at?, child?, hn]
    rfl

theorem at?_insert_eq_none {dir : List Text} {es : List (Text × Node)}
    (hdir : n.at? dir = some (.dir es)) (hnode : node.entries = []) {q : List Text}
    (hne : q ≠ dir ++ [name]) (hq : n.at? q = none) :
    (insert node (dir ++ [name]) n).at? q = none := by
  induction dir generalizing n q with
  | nil =>
    cases q with
    | nil => cases hq
    | cons other q =>
      by_cases he : other = name
      · subst he
        rw [List.nil_append, at?, child?_insert]
        exact at?_of_entries_eq_nil hnode (fun h => hne (by rw [h, List.nil_append]))
      · rw [List.nil_append, at?, child?_insert_of_ne he]
        exact hq
  | cons first dir ih =>
    obtain ⟨c, hc, hrest⟩ := Option.bind_eq_some_iff.mp hdir
    cases q with
    | nil => cases hq
    | cons other q =>
      by_cases he : other = first
      · subst he
        rw [at?, hc] at hq
        rw [List.cons_append, at?, child?_insert, hc]
        exact ih hrest (fun h => hne (h ▸ rfl)) hq
      · rw [List.cons_append, at?, child?_insert_of_ne he]
        exact hq

theorem isKept_insert {dir : List Text} {es : List (Text × Node)}
    (hopen : n.Open (dir ++ [name])) (hdir : n.at? dir = some (.dir es)) (hnode : node.entries = [])
    {q : List Text} (hne : q ≠ dir ++ [name]) :
    IsKept (n.at? q) ((insert node (dir ++ [name]) n).at? q) := by
  cases hq : n.at? q with
  | none => exact at?_insert_eq_none hdir hnode hne hq
  | some m =>
    cases m with
    | file bytes => exact at?_insert_of_ne hopen hne hq (by simp)
    | dir es => exact exists_dir_at?_insert hopen hq
    | link target => exact at?_insert_of_ne hopen hne hq (by simp)

end Node

namespace Disk

variable {d d' d'' : Disk} {q : List Text}

def IsDirAt (d : Disk) (path : List Text) : Prop := ∃ es, d.root.at? path = some (.dir es)

theorem IsDirAt.dropLast {path : List Text} (h : d.IsDirAt path) : d.IsDirAt path.dropLast := by
  rcases List.eq_nil_or_concat path with rfl | ⟨front, name, rfl⟩
  · exact h
  · obtain ⟨es, h⟩ := h
    rw [List.concat_eq_append] at h ⊢
    rw [List.dropLast_concat]
    exact Node.exists_dir_of_at?_append h

theorem IsDirAt.nil {path : List Text} (h : d.IsDirAt path) : d.IsDirAt [] := by
  obtain ⟨es, h⟩ := h
  cases path with
  | nil => exact ⟨es, h⟩
  | cons name path =>
    rw [← List.nil_append (name :: path)] at h
    exact Node.exists_dir_of_at?_append h

def HasCwd (d : Disk) : Prop := d.IsDirAt d.cwd

theorem HasCwd.isDirAt (h : d.HasCwd) (path : Text) :
    d.IsDirAt (if path.head? = some '/' then [] else d.cwd) := by
  split
  · exact IsDirAt.nil h
  · exact h

/-- A disk on which files were written and directories made, and nothing else was done. -/
structure Grows (d d' : Disk) : Prop where
  cwd : d'.cwd = d.cwd
  becomes : ∀ q, Node.Becomes (d.root.at? q) (d'.root.at? q)

theorem Grows.refl (d : Disk) : d.Grows d := ⟨rfl, fun _ => Node.becomes_refl _⟩

theorem Grows.trans (h : d.Grows d') (h' : d'.Grows d'') : d.Grows d'' :=
  ⟨h'.cwd.trans h.cwd, fun q => (h.becomes q).trans (h'.becomes q)⟩

theorem Grows.isDirAt (h : d.Grows d') (hq : d.IsDirAt q) : d'.IsDirAt q := by
  obtain ⟨es, hes⟩ := hq
  have hq := h.becomes q
  rw [hes] at hq
  exact hq

theorem Grows.hasCwd (h : d.Grows d') (hcwd : d.HasCwd) : d'.HasCwd := by
  rw [HasCwd, h.cwd]
  exact h.isDirAt hcwd

structure Stands (d d' : Disk) : Prop where
  cwd : d'.cwd = d.cwd
  becomes : ∀ q m, d.root.at? q = some m → Node.Becomes (some m) (d'.root.at? q)

theorem Stands.refl (d : Disk) : d.Stands d := by
  refine ⟨rfl, fun q m hm => ?_⟩
  rw [hm]
  exact Node.becomes_refl _

theorem Stands.trans (h : d.Stands d') (h' : d'.Stands d'') : d.Stands d'' := by
  refine ⟨h'.cwd.trans h.cwd, fun q m hm => ?_⟩
  have hfirst := h.becomes q m hm
  cases hmid : d'.root.at? q with
  | some mid => exact (hmid ▸ hfirst).trans (h'.becomes q mid hmid)
  | none =>
    rw [hmid] at hfirst
    cases m with
    | file bytes => cases hfirst.choose_spec
    | dir es => cases hfirst.choose_spec
    | link target => cases hfirst

theorem Grows.stands (h : d.Grows d') : d.Stands d' :=
  ⟨h.cwd, fun q _ hm => hm ▸ h.becomes q⟩

def Keeps (d d' : Disk) (q : List Text) : Prop := Node.IsKept (d.root.at? q) (d'.root.at? q)

namespace Place

def names : Place → List Text
  | .found path _ => path
  | .missing dir name => dir ++ [name]

def filePath? : Place → Option (List Text)
  | .found path (.file _) => some path
  | .found .. => none
  | .missing dir name => some (dir ++ [name])

theorem names_of_filePath? {place : Place} (h : place.filePath? = some q) : place.names = q := by
  rcases place with ⟨path, _ | _ | _⟩ | ⟨dir, name⟩
  · exact Option.some.inj h
  · cases h
  · cases h
  · exact Option.some.inj h

def node? : Place → Option Node
  | .found _ node => some node
  | .missing .. => none

def Holds (d : Disk) : Place → Prop
  | .found path node => d.root.at? path = some node
  | .missing dir name => d.IsDirAt dir ∧ d.root.at? (dir ++ [name]) = none

def Clear (d : Disk) : Place → Prop
  | .found .. => True
  | .missing dir name => ∀ target, d.root.at? (dir ++ [name]) ≠ some (.link target)

def within (d : Disk) (place : Place) : Place :=
  match d.root.at? place.names with
  | some node => .found place.names node
  | none => place

end Place

section Locate

variable {follow : Bool} {dir todo : List Text} {place : Place}
  {jump jump' : List Text → Text → List Text → Except Int Place}

theorem at?_of_locateBy
    (hjump : ∀ dir target rest, jump dir target rest = .ok place →
      d.root.at? place.names = place.node?)
    (h : d.locateBy follow jump dir todo = .ok place) :
    d.root.at? place.names = place.node? := by
  fun_induction locateBy d follow jump dir todo with
  | case1 dir node hnode =>
    cases h
    exact hnode
  | case3 dir rest ih => exact ih h
  | case4 dir rest hdot ih => exact ih h
  | case6 dir name rest hdot hdots hlength hnone hrest =>
    cases h
    rwa [← Node.at?_append_singleton] at hnone
  | case8 dir name rest hdot hdots hlength es hes ih => exact ih h
  | case9 dir name rest hdot hdots hlength bytes hbytes hrest =>
    cases h
    rwa [← Node.at?_append_singleton] at hbytes
  | case11 dir name rest hdot hdots hlength target htarget hlast =>
    cases h
    rwa [← Node.at?_append_singleton] at htarget
  | case12 dir name rest hdot hdots hlength target htarget hlast => exact hjump _ _ _ h
  | case2 | case5 | case7 | case10 => cases h

theorem at?_of_locate {links : ℕ} (h : d.locate follow links dir todo = .ok place) :
    d.root.at? place.names = place.node? := by
  induction links generalizing dir todo with
  | zero => exact at?_of_locateBy (fun _ _ _ hjump => by cases hjump) h
  | succ links ih =>
    refine at?_of_locateBy (fun dir target rest hjump => ?_) h
    split at hjump
    · cases hjump
    · exact ih hjump

theorem holds_of_locateBy (hdir : d.IsDirAt dir)
    (hjump : ∀ dir target rest, d.IsDirAt dir → jump dir target rest = .ok place → place.Holds d)
    (h : d.locateBy follow jump dir todo = .ok place) : place.Holds d := by
  -- the cases left to the end are those of a path that leads nowhere
  fun_induction locateBy d follow jump dir todo with
  | case1 dir node hnode =>
    cases h
    exact hnode
  | case3 dir rest ih => exact ih hdir h
  | case4 dir rest hdot ih => exact ih hdir.dropLast h
  | case6 dir name rest hdot hdots hlength hnone hrest =>
    cases h
    rw [← Node.at?_append_singleton] at hnone
    exact ⟨hdir, hnone⟩
  | case8 dir name rest hdot hdots hlength es hes ih =>
    rw [← Node.at?_append_singleton] at hes
    exact ih ⟨es, hes⟩ h
  | case9 dir name rest hdot hdots hlength bytes hbytes hrest =>
    cases h
    rw [← Node.at?_append_singleton] at hbytes
    exact hbytes
  | case11 dir name rest hdot hdots hlength target htarget hlast =>
    cases h
    rw [← Node.at?_append_singleton] at htarget
    exact htarget
  | case12 dir name rest hdot hdots hlength target htarget hlast => exact hjump _ _ _ hdir h
  | case2 | case5 | case7 | case10 => cases h

theorem holds_of_locate {links : ℕ} (hdir : d.IsDirAt dir)
    (h : d.locate follow links dir todo = .ok place) : place.Holds d := by
  induction links generalizing dir todo with
  | zero =>
    refine holds_of_locateBy hdir (fun dir target rest _ hjump => ?_) h
    cases hjump
  | succ links ih =>
    refine holds_of_locateBy hdir (fun dir target rest hdir hjump => ?_) h
    split at hjump
    · cases hjump
    · refine ih ?_ hjump
      split
      · exact hdir.nil
      · exact hdir

theorem locateBy_of_stands (hstands : d.Stands d') (hclear : place.Clear d')
    (hjump : ∀ dir target rest, jump dir target rest = .ok place →
      jump' dir target rest = .ok (place.within d'))
    (h : d.locateBy follow jump dir todo = .ok place) :
    d'.locateBy follow jump' dir todo = .ok (place.within d') := by
  have hbecomes : ∀ {dir name m}, (d.root.at? dir).bind (·.child? name) = some m →
      Node.Becomes (some m) ((d'.root.at? dir).bind (·.child? name)) := by
    intro dir name m hm
    rw [← Node.at?_append_singleton] at hm ⊢
    exact hstands.becomes _ m hm
  have hlink : ∀ {dir name target}, (d.root.at? dir).bind (·.child? name) = some (.link target) →
      (d'.root.at? dir).bind (·.child? name) = some (.link target) := fun h => hbecomes h
  fun_induction locateBy d follow jump dir todo with
  | case1 dir node hnode =>
    cases h
    have hdir := hstands.becomes dir node hnode
    obtain ⟨node', hnode'⟩ : ∃ node', d'.root.at? dir = some node' := by
      cases node with
      | file bytes => exact ⟨_, hdir.choose_spec⟩
      | dir es => exact ⟨_, hdir.choose_spec⟩
      | link target => exact ⟨_, hdir⟩
    rw [locateBy, hnode']
    simp only [Place.within, Place.names, hnode']
  | case3 dir rest ih =>
    rw [locateBy, if_pos rfl]
    exact ih h
  | case4 dir rest hdot ih =>
    rw [locateBy, if_neg hdot, if_pos rfl]
    exact ih h
  | case6 dir name rest hdot hdots hlength hnone hrest =>
    cases h
    obtain rfl : rest = [] := List.isEmpty_iff.mp hrest
    have hwithin := Node.at?_append_singleton (n := d'.root) dir name
    rw [locateBy, if_neg hdot, if_neg hdots, if_neg hlength]
    -- a file or a directory may be now where nothing was
    cases hnow : (d'.root.at? dir).bind (·.child? name) with
    | none =>
      rw [hnow] at hwithin
      simp only [List.isEmpty_nil, if_true, Place.within, Place.names, hwithin]
    | some node =>
      rw [hnow] at hwithin
      cases node with
      | file bytes =>
        simp only [List.isEmpty_nil, if_true, Place.within, Place.names, hwithin]
      | dir es =>
        simp only [locateBy, Place.within, Place.names, hwithin]
      | link target => exact absurd hwithin (hclear target)
  | case8 dir name rest hdot hdots hlength es hes ih =>
    obtain ⟨es', hes'⟩ := hbecomes hes
    rw [locateBy, if_neg hdot, if_neg hdots, if_neg hlength, hes']
    exact ih h
  | case9 dir name rest hdot hdots hlength old hold hrest =>
    cases h
    obtain ⟨bytes, hbytes⟩ := hbecomes hold
    have hwithin := hbytes
    rw [← Node.at?_append_singleton] at hwithin
    rw [locateBy, if_neg hdot, if_neg hdots, if_neg hlength, hbytes]
    simp only [hrest, if_true, Place.within, Place.names, hwithin]
  | case11 dir name rest hdot hdots hlength target htarget hlast =>
    cases h
    have hwithin := hlink htarget
    rw [← Node.at?_append_singleton] at hwithin
    rw [locateBy, if_neg hdot, if_neg hdots, if_neg hlength, hlink htarget]
    simp only [hlast, if_true, Place.within, Place.names, hwithin]
  | case12 dir name rest hdot hdots hlength target htarget hlast =>
    rw [locateBy, if_neg hdot, if_neg hdots, if_neg hlength, hlink htarget]
    simp only [hlast]
    exact hjump _ _ _ h
  | case2 | case5 | case7 | case10 => cases h

theorem locate_of_stands {links : ℕ} (hstands : d.Stands d') (hclear : place.Clear d')
    (h : d.locate follow links dir todo = .ok place) :
    d'.locate follow links dir todo = .ok (place.within d') := by
  induction links generalizing dir todo with
  | zero =>
    refine locateBy_of_stands hstands hclear (fun dir target rest hjump => ?_) h
    cases hjump
  | succ links ih =>
    refine locateBy_of_stands hstands hclear (fun dir target rest hjump => ?_) h
    split at hjump
    · cases hjump
    · rename_i htarget
      rw [if_neg htarget]
      exact ih hjump

end Locate

theorem holds_of_resolve (hcwd : d.HasCwd) {follow : Bool} {path : Text} {place : Place}
    (h : d.resolve follow path = .ok place) : place.Holds d := by
  unfold resolve at h
  split at h
  · cases h
  · split at h
    · cases h
    · exact holds_of_locate (hcwd.isDirAt path) h

theorem at?_of_resolve {follow : Bool} {path : Text} {place : Place}
    (h : d.resolve follow path = .ok place) : d.root.at? place.names = place.node? := by
  unfold resolve at h
  split at h
  · cases h
  · split at h
    · cases h
    · exact at?_of_locate h

theorem resolve_of_stands (hstands : d.Stands d') {follow : Bool} {path : Text} {place : Place}
    (hclear : place.Clear d') (h : d.resolve follow path = .ok place) :
    d'.resolve follow path = .ok (place.within d') := by
  unfold resolve at h ⊢
  split at h
  · cases h
  · split at h
    · cases h
    · rename_i hpath hlength
      rw [if_neg hpath, if_neg hlength, hstands.cwd]
      exact locate_of_stands hstands hclear h

theorem resolve_of_grows (hgrows : d.Grows d') {follow : Bool} {path : Text} {place : Place}
    (h : d.resolve follow path = .ok place) :
    d'.resolve follow path = .ok (place.within d') := by
  refine resolve_of_stands hgrows.stands ?_ h
  have hplace := at?_of_resolve h
  cases place with
  | found path node => exact trivial
  | missing dir name =>
    have hbecomes := hgrows.becomes (dir ++ [name])
    rw [show d.root.at? (dir ++ [name]) = none from hplace] at hbecomes
    exact hbecomes

/-- A path leads to a place, and if it ends in a symbolic link, to where that leads. -/
def LeadsTo (d : Disk) (path : Text) (q : List Text) : Prop :=
  ∃ place, d.resolve true path = .ok place ∧ place.names = q

theorem LeadsTo.of_grows {path : Text} (h : d.LeadsTo path q) (hgrows : d.Grows d') :
    d'.LeadsTo path q := by
  obtain ⟨place, hplace, rfl⟩ := h
  refine ⟨_, resolve_of_grows hgrows hplace, ?_⟩
  unfold Place.within
  split <;> rfl

end Disk

end CommentTags
