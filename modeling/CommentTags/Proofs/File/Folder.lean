import CommentTags.File.Memory
import CommentTags.Proofs.Path.Below

/-!
Finite directory trees, and the file accesses that show them. Where the names of every directory
ascend, so do the paths of all files and of all directories, compared name by name.
-/

namespace CommentTags

inductive Folder where
  | nil
  | file (name : Text) (lines : List Text) (rest : Folder)
  | dir (name : Text) (inner rest : Folder)

namespace Folder

def entries : Folder → List Entry
  | nil => []
  | file name _ rest => ⟨name, false⟩ :: entries rest
  | dir name _ rest => ⟨name, true⟩ :: entries rest

def files : Folder → List (List Text × List Text)
  | nil => []
  | file name lines rest => ([name], lines) :: files rest
  | dir name inner rest => (files inner).map (fun f => (name :: f.1, f.2)) ++ files rest

def dirs : Folder → List (List Text)
  | nil => []
  | file _ _ rest => dirs rest
  | dir name inner rest => [name] :: ((dirs inner).map (fun d => name :: d) ++ dirs rest)

def height : Folder → ℕ
  | nil => 0
  | file _ _ rest => height rest
  | dir _ inner rest => max (height inner + 1) (height rest)

def AllNames (P : Text → Prop) : Folder → Prop
  | nil => True
  | file name _ rest => P name ∧ AllNames P rest
  | dir name inner rest => P name ∧ AllNames P inner ∧ AllNames P rest

def Ordered : Folder → Prop
  | nil => True
  | file name _ rest => (∀ e ∈ rest.entries, name < e.name) ∧ Ordered rest
  | dir name inner rest => (∀ e ∈ rest.entries, name < e.name) ∧ Ordered inner ∧ Ordered rest

theorem AllNames.imp {P Q : Text → Prop} (himp : ∀ name, P name → Q name) {d : Folder}
    (h : d.AllNames P) : d.AllNames Q := by
  induction d with
  | nil => exact trivial
  | file name lines rest ih => exact ⟨himp name h.1, ih h.2⟩
  | dir name inner rest ihInner ihRest =>
    exact ⟨himp name h.1, ihInner h.2.1, ihRest h.2.2⟩

instance decidableAllNames (P : Text → Prop) [DecidablePred P] :
    (d : Folder) → Decidable (d.AllNames P)
  | nil => inferInstanceAs (Decidable True)
  | file name _ rest =>
    have := decidableAllNames P rest
    inferInstanceAs (Decidable (P name ∧ AllNames P rest))
  | dir name inner rest =>
    have := decidableAllNames P inner
    have := decidableAllNames P rest
    inferInstanceAs (Decidable (P name ∧ AllNames P inner ∧ AllNames P rest))

instance decidableOrdered : (d : Folder) → Decidable d.Ordered
  | nil => inferInstanceAs (Decidable True)
  | file name _ rest =>
    have := decidableOrdered rest
    inferInstanceAs (Decidable ((∀ e ∈ rest.entries, name < e.name) ∧ Ordered rest))
  | dir name inner rest =>
    have := decidableOrdered inner
    have := decidableOrdered rest
    inferInstanceAs
      (Decidable ((∀ e ∈ rest.entries, name < e.name) ∧ Ordered inner ∧ Ordered rest))

theorem names_of_mem_files {P : Text → Prop} {d : Folder} (h : d.AllNames P)
    {f : List Text × List Text} (hf : f ∈ d.files) : f.1 ≠ [] ∧ ∀ n ∈ f.1, P n := by
  induction d generalizing f with
  | nil => cases hf
  | file name lines rest ih =>
    rcases List.mem_cons.mp hf with rfl | hf
    · exact ⟨List.cons_ne_nil name [], by simpa using h.1⟩
    · exact ih h.2 hf
  | dir name inner rest ihInner ihRest =>
    rcases List.mem_append.mp hf with hf | hf
    · obtain ⟨g, hg, rfl⟩ := List.mem_map.mp hf
      refine ⟨List.cons_ne_nil name g.1, ?_⟩
      intro n hn
      rcases List.mem_cons.mp hn with rfl | hn
      · exact h.1
      · exact (ihInner h.2.1 hg).2 n hn
    · exact ihRest h.2.2 hf

theorem names_of_mem_dirs {P : Text → Prop} {d : Folder} (h : d.AllNames P) {p : List Text}
    (hp : p ∈ d.dirs) : p ≠ [] ∧ ∀ n ∈ p, P n := by
  induction d generalizing p with
  | nil => cases hp
  | file name lines rest ih => exact ih h.2 hp
  | dir name inner rest ihInner ihRest =>
    rcases List.mem_cons.mp hp with rfl | hp
    · exact ⟨List.cons_ne_nil name [], by simpa using h.1⟩
    rcases List.mem_append.mp hp with hp | hp
    · obtain ⟨q, hq, rfl⟩ := List.mem_map.mp hp
      refine ⟨List.cons_ne_nil name q, ?_⟩
      intro n hn
      rcases List.mem_cons.mp hn with rfl | hn
      · exact h.1
      · exact (ihInner h.2.1 hq).2 n hn
    · exact ihRest h.2.2 hp

theorem exists_entry_of_mem_files {d : Folder} {f : List Text × List Text} (hf : f ∈ d.files) :
    ∃ e ∈ d.entries, ∃ q, f.1 = e.name :: q := by
  induction d generalizing f with
  | nil => cases hf
  | file name lines rest ih =>
    rcases List.mem_cons.mp hf with rfl | hf
    · exact ⟨⟨name, false⟩, List.mem_cons_self, [], rfl⟩
    · obtain ⟨e, he, h⟩ := ih hf
      exact ⟨e, List.mem_cons_of_mem _ he, h⟩
  | dir name inner rest _ ihRest =>
    rcases List.mem_append.mp hf with hf | hf
    · obtain ⟨g, -, rfl⟩ := List.mem_map.mp hf
      exact ⟨⟨name, true⟩, List.mem_cons_self, g.1, rfl⟩
    · obtain ⟨e, he, h⟩ := ihRest hf
      exact ⟨e, List.mem_cons_of_mem _ he, h⟩

theorem exists_entry_of_mem_dirs {d : Folder} {p : List Text} (hp : p ∈ d.dirs) :
    ∃ e ∈ d.entries, ∃ q, p = e.name :: q := by
  induction d generalizing p with
  | nil => cases hp
  | file name lines rest ih =>
    obtain ⟨e, he, h⟩ := ih hp
    exact ⟨e, List.mem_cons_of_mem _ he, h⟩
  | dir name inner rest _ ihRest =>
    rcases List.mem_cons.mp hp with rfl | hp
    · exact ⟨⟨name, true⟩, List.mem_cons_self, [], rfl⟩
    rcases List.mem_append.mp hp with hp | hp
    · obtain ⟨q, -, rfl⟩ := List.mem_map.mp hp
      exact ⟨⟨name, true⟩, List.mem_cons_self, q, rfl⟩
    · obtain ⟨e, he, h⟩ := ihRest hp
      exact ⟨e, List.mem_cons_of_mem _ he, h⟩

theorem ne_nil_of_mem_files {d : Folder} {f : List Text × List Text} (hf : f ∈ d.files) :
    f.1 ≠ [] := by
  obtain ⟨e, -, q, hq⟩ := exists_entry_of_mem_files hf
  rw [hq]
  exact List.cons_ne_nil e.name q

theorem ne_nil_of_mem_dirs {d : Folder} {p : List Text} (hp : p ∈ d.dirs) : p ≠ [] := by
  obtain ⟨e, -, q, rfl⟩ := exists_entry_of_mem_dirs hp
  exact List.cons_ne_nil e.name q

theorem pairwise_cons_map (name : Text) {ps : List (List Text)} (h : ps.Pairwise (· < ·)) :
    (ps.map (fun p => name :: p)).Pairwise (· < ·) :=
  h.map _ (fun _ _ hlt => List.cons_lt_cons_iff.mpr (.inr ⟨rfl, hlt⟩))

theorem cons_lt_of_name_lt {name : Text} {es : List Entry} (h : ∀ e ∈ es, name < e.name)
    {q p : List Text} (hp : ∃ e ∈ es, ∃ r, p = e.name :: r) : name :: q < p := by
  obtain ⟨e, he, r, rfl⟩ := hp
  exact List.cons_lt_cons_iff.mpr (.inl (h e he))

theorem pairwise_files {d : Folder} (h : d.Ordered) :
    (d.files.map Prod.fst).Pairwise (· < ·) := by
  induction d with
  | nil => exact List.Pairwise.nil
  | file name lines rest ih =>
    rw [files, List.map_cons, List.pairwise_cons]
    refine ⟨?_, ih h.2⟩
    intro p hp
    obtain ⟨f, hf, rfl⟩ := List.mem_map.mp hp
    exact cons_lt_of_name_lt h.1 (exists_entry_of_mem_files hf)
  | dir name inner rest ihInner ihRest =>
    have hinner := pairwise_cons_map name (ihInner h.2.1)
    rw [files, List.map_append, List.pairwise_append]
    refine ⟨by simpa [Function.comp_def] using hinner, ihRest h.2.2, ?_⟩
    intro p hp q hq
    obtain ⟨f, hf, rfl⟩ := List.mem_map.mp hp
    obtain ⟨g, -, rfl⟩ := List.mem_map.mp hf
    obtain ⟨f', hf', rfl⟩ := List.mem_map.mp hq
    exact cons_lt_of_name_lt h.1 (exists_entry_of_mem_files hf')

theorem pairwise_dirs {d : Folder} (h : d.Ordered) : d.dirs.Pairwise (· < ·) := by
  induction d with
  | nil => exact List.Pairwise.nil
  | file name lines rest ih => exact ih h.2
  | dir name inner rest ihInner ihRest =>
    have hrest : ∀ q, ∀ p ∈ rest.dirs, name :: q < p := fun q p hp =>
      cons_lt_of_name_lt h.1 (exists_entry_of_mem_dirs hp)
    rw [dirs, List.pairwise_cons, List.pairwise_append]
    refine ⟨?_, pairwise_cons_map name (ihInner h.2.1), ihRest h.2.2, ?_⟩
    · intro p hp
      rcases List.mem_append.mp hp with hp | hp
      · obtain ⟨q, hq, rfl⟩ := List.mem_map.mp hp
        obtain ⟨e, -, r, rfl⟩ := exists_entry_of_mem_dirs hq
        exact List.cons_lt_cons_iff.mpr (.inr ⟨rfl, List.nil_lt_cons _ _⟩)
      · exact hrest [] p hp
    · intro p hp q hq
      obtain ⟨r, -, rfl⟩ := List.mem_map.mp hp
      exact hrest r q hq

theorem not_mem_dirs_of_mem_files {d : Folder} (h : d.Ordered) {f : List Text × List Text}
    (hf : f ∈ d.files) : f.1 ∉ d.dirs := by
  have hapart : ∀ {name : Text} {es : List Entry}, (∀ e ∈ es, name < e.name) →
      ∀ q, ¬ ∃ e ∈ es, ∃ r, name :: q = e.name :: r := by
    rintro name es hes q ⟨e, he, r, hname⟩
    obtain ⟨rfl, -⟩ := List.cons.inj hname
    exact List.lt_irrefl _ (hes e he)
  induction d generalizing f with
  | nil => cases hf
  | file name lines rest ih =>
    intro hdir
    rcases List.mem_cons.mp hf with rfl | hf
    · exact hapart h.1 [] (exists_entry_of_mem_dirs hdir)
    · exact ih h.2 hf hdir
  | dir name inner rest ihInner ihRest =>
    intro hdir
    rcases List.mem_append.mp hf with hf | hf
    · obtain ⟨g, hg, rfl⟩ := List.mem_map.mp hf
      rcases List.mem_cons.mp hdir with hdir | hdir
      · exact ne_nil_of_mem_files hg (List.cons.inj hdir).2
      rcases List.mem_append.mp hdir with hdir | hdir
      · obtain ⟨q, hq, hpath⟩ := List.mem_map.mp hdir
        exact ihInner h.2.1 hg ((List.cons.inj hpath).2 ▸ hq)
      · exact hapart h.1 g.1 (exists_entry_of_mem_dirs hdir)
    · rcases List.mem_cons.mp hdir with hdir | hdir
      · exact hapart h.1 [] (hdir ▸ exists_entry_of_mem_files hf)
      rcases List.mem_append.mp hdir with hdir | hdir
      · obtain ⟨q, -, hpath⟩ := List.mem_map.mp hdir
        exact hapart h.1 q (hpath ▸ exists_entry_of_mem_files hf)
      · exact ihRest h.2.2 hf hdir

end Folder

namespace FileAccess

/-- Below a directory a listing that succeeds shows the entries of the folder. -/
def Agrees (a : FileAccess) : (dir : Text) → Folder → Prop
  | _, .nil => True
  | dir, .file _ _ rest => Agrees a dir rest
  | dir, .dir name inner rest =>
    (∀ es, a.list (Path.join dir name) = .ok es → es = inner.entries) ∧
      Agrees a (Path.join dir name) inner ∧ Agrees a dir rest

/-- Below a directory every listing and every reading succeeds and shows what the folder holds. -/
def Holds (a : FileAccess) (encoding : Text) : (dir : Text) → Folder → Prop
  | _, .nil => True
  | dir, .file name lines rest =>
    a.read (Path.join dir name) encoding = .ok ⟨lines, none⟩ ∧ Holds a encoding dir rest
  | dir, .dir name inner rest =>
    a.list (Path.join dir name) = .ok inner.entries ∧
      Holds a encoding (Path.join dir name) inner ∧ Holds a encoding dir rest

theorem Holds.agrees {a : FileAccess} {encoding dir : Text} {d : Folder}
    (h : a.Holds encoding dir d) : a.Agrees dir d := by
  induction d generalizing dir with
  | nil => exact trivial
  | file name lines rest ih => exact ih h.2
  | dir name inner rest ihInner ihRest =>
    refine ⟨?_, ihInner h.2.1, ihRest h.2.2⟩
    intro es hes
    rw [h.1] at hes
    exact (Except.ok.inj hes).symm

theorem Holds.read {a : FileAccess} {encoding dir : Text} {d : Folder}
    (h : a.Holds encoding dir d) {f : List Text × List Text} (hf : f ∈ d.files) :
    a.read (Path.below dir f.1) encoding = .ok ⟨f.2, none⟩ := by
  induction d generalizing dir f with
  | nil => cases hf
  | file name lines rest ih =>
    rcases List.mem_cons.mp hf with rfl | hf
    · exact h.1
    · exact ih h.2 hf
  | dir name inner rest ihInner ihRest =>
    rcases List.mem_append.mp hf with hf | hf
    · obtain ⟨g, hg, rfl⟩ := List.mem_map.mp hf
      exact ihInner h.2.1 hg
    · exact ihRest h.2.2 hf

theorem Holds.list {a : FileAccess} {encoding dir : Text} {d : Folder}
    (h : a.Holds encoding dir d) {p : List Text} (hp : p ∈ d.dirs) :
    ∃ es, a.list (Path.below dir p) = .ok es := by
  induction d generalizing dir p with
  | nil => cases hp
  | file name lines rest ih => exact ih h.2 hp
  | dir name inner rest ihInner ihRest =>
    rcases List.mem_cons.mp hp with rfl | hp
    · exact ⟨inner.entries, h.1⟩
    rcases List.mem_append.mp hp with hp | hp
    · obtain ⟨q, hq, rfl⟩ := List.mem_map.mp hp
      exact ihInner h.2.1 hq
    · exact ihRest h.2.2 hp

/-- No operation on a directory tree fails, and its directories do not lie deeper inside one
another than the access allows. -/
structure Serves (a : FileAccess) (encoding root : Text) (d : Folder) : Prop where
  listed : a.list root = .ok d.entries
  held : a.Holds encoding root d
  deep : d.height < a.depth

end FileAccess

namespace MemoryFiles

def found (m : MemoryFiles) (dir : Text) : List Entry :=
  (m.dirs.filter (fun d => d ≠ dir && Path.dirName d == dir)).map (⟨Path.baseName ·, true⟩) ++
    ((m.files.map (·.1)).filter (fun f => Path.dirName f == dir)).map (⟨Path.baseName ·, false⟩)

theorem list_of_pairwise (m : MemoryFiles) {dir : Text} {es : List Entry}
    (hfail : m.listFailures.lookup dir = none) (hdir : m.dirs.contains dir = true)
    (hascends : m.descending = false) (hfound : m.found dir = es)
    (hsorted : es.Pairwise (fun a b => a.before b = true)) : m.list dir = .ok es := by
  rw [← hfound] at hsorted ⊢
  unfold list
  simp only [hfail, hdir, hascends, Entry.sort]
  exact congrArg _ (List.mergeSort_of_pairwise hsorted)

end MemoryFiles

end CommentTags
