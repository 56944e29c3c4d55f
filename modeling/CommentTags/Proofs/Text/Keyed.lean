import CommentTags.Text
import Mathlib.Data.List.Nodup

namespace CommentTags.Text

variable {β : Type} {es : List (Text × β)} {name : Text} {value : β}

theorem mem_of_lookup (h : es.lookup name = some value) : (name, value) ∈ es := by
  obtain ⟨front, rest, rfl, -⟩ := List.lookup_eq_some_iff.mp h
  exact List.mem_append_right front List.mem_cons_self

theorem lookup_of_mem (hnames : (es.map Prod.fst).Nodup) (h : (name, value) ∈ es) :
    es.lookup name = some value := by
  obtain ⟨front, rest, rfl⟩ := List.append_of_mem h
  refine List.lookup_eq_some_iff.mpr ⟨front, rest, rfl, fun e he => ?_⟩
  rw [List.map_append, List.map_cons, List.nodup_append] at hnames
  have hne := hnames.2.2 e.1 (List.mem_map_of_mem he) name List.mem_cons_self
  simpa using Ne.symm hne

theorem lookup_reverse (hnames : (es.map Prod.fst).Nodup) (name : Text) :
    es.reverse.lookup name = es.lookup name := by
  have hreverse : (es.reverse.map Prod.fst).Nodup := by
    rw [List.map_reverse]
    exact List.nodup_reverse.mpr hnames
  refine Option.ext fun value => ⟨fun h => ?_, fun h => ?_⟩
  · exact lookup_of_mem hnames (List.mem_reverse.mp (mem_of_lookup h))
  · exact lookup_of_mem hreverse (List.mem_reverse.mpr (mem_of_lookup h))

end CommentTags.Text
