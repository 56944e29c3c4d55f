import CommentTags.File.Local
import CommentTags.Proofs.File.Growth
import CommentTags.Proofs.Path.Below
import CommentTags.Proofs.Text.Keyed

namespace CommentTags

namespace Path

structure IsName (name : Text) : Prop where
  plain : Plain name
  zero : Failure.zero ∉ name
  dot : name ≠ ['.']
  dots : name ≠ ['.', '.']

instance (name : Text) : Decidable (IsName name) :=
  decidable_of_iff (Plain name ∧ Failure.zero ∉ name ∧ name ≠ ['.'] ∧ name ≠ ['.', '.'])
    ⟨fun h => ⟨h.1, h.2.1, h.2.2.1, h.2.2.2⟩, fun h => ⟨h.plain, h.zero, h.dot, h.dots⟩⟩

theorem mem_join {dir name : Text} (h : Plain name) {c : Char} (hc : c ∈ join dir name) :
    c ∈ dir ∨ c = '/' ∨ c ∈ name := by
  rw [join_of_plain dir h, base] at hc
  split at hc
  · exact (List.mem_append.mp hc).imp_right .inr
  · simpa only [List.mem_append, List.mem_singleton, or_assoc] using hc

theorem head?_join {dir name : Text} (hdir : dir ≠ []) (h : Plain name) :
    (join dir name).head? = dir.head? := by
  rw [join_of_plain dir h, base]
  split
  · rw [List.head?_append_of_ne_nil _ hdir]
  · rw [List.append_assoc, List.head?_append_of_ne_nil _ hdir]

theorem join_ne_nil {dir name : Text} (hdir : dir ≠ []) (h : Plain name) : join dir name ≠ [] := by
  intro hnil
  have hhead := head?_join hdir h
  rw [hnil] at hhead
  exact hdir (List.head?_eq_none_iff.mp hhead.symm)

theorem IsName.zero_mem_of_join {dir name : Text} (h : IsName name)
    (hzero : Failure.zero ∈ join dir name) : Failure.zero ∈ dir := by
  rcases mem_join h.plain hzero with hdir | hslash | hname
  · exact hdir
  · exact absurd hslash (by decide)
  · exact absurd hname h.zero

end Path

namespace Node

inductive WellNamed : Node → Prop
  | file (bytes : List UInt8) : WellNamed (.file bytes)
  | link (target : Text) : WellNamed (.link target)
  | dir {es : List (Text × Node)} (hnodup : (es.map Prod.fst).Nodup)
    (hnames : ∀ e ∈ es, Path.IsName e.1) (h : ∀ e ∈ es, WellNamed e.2) : WellNamed (.dir es)

theorem mem_of_child? {n c : Node} {name : Text} (h : n.child? name = some c) :
    (name, c) ∈ n.entries :=
  Text.mem_of_lookup h

theorem WellNamed.child? {n c : Node} (h : n.WellNamed) {name : Text}
    (hc : n.child? name = some c) : c.WellNamed := by
  have hmem := mem_of_child? hc
  cases h with
  | file bytes => cases hmem
  | link target => cases hmem
  | dir _ _ hes => exact hes _ hmem

theorem WellNamed.at? {n m : Node} (h : n.WellNamed) {path : List Text}
    (hm : n.at? path = some m) : m.WellNamed := by
  induction path generalizing n with
  | nil =>
    obtain rfl := Option.some.inj hm
    exact h
  | cons name rest ih =>
    obtain ⟨c, hc, hrest⟩ := Option.bind_eq_some_iff.mp hm
    exact ih (h.child? hc) hrest

end Node

namespace Disk

variable {d : Disk}

theorem exists_of_node {path : Text} {n : Node} (h : d.node path = .ok n) :
    ∃ q, d.resolve true path = .ok (.found q n) := by
  unfold node at h
  split at h
  · rename_i q found hplace
    obtain rfl := Except.ok.inj h
    exact ⟨q, hplace⟩
  · cases h
  · cases h

theorem exists_of_readDir {dir : Text} {es : List (Text × Node)} (h : d.readDir dir = .ok es) :
    ∃ q, d.resolve true dir = .ok (.found q (.dir es)) := by
  unfold readDir checked at h
  split at h
  · cases h
  · split at h
    · rename_i found hnode
      obtain rfl := Except.ok.inj h
      exact exists_of_node hnode
    · cases h
    · cases h

theorem wellNamed_of_readDir (hnamed : d.root.WellNamed) {dir : Text} {es : List (Text × Node)}
    (h : d.readDir dir = .ok es) : (Node.dir es).WellNamed := by
  obtain ⟨q, hplace⟩ := exists_of_readDir h
  exact hnamed.at? (at?_of_resolve hplace)

end Disk

end CommentTags
