import CommentTags.Proofs.Json.Documents
import Mathlib.Algebra.Group.Int.Defs
import Mathlib.Algebra.Group.Nat.Defs

namespace CommentTags.Json

theorem isShort_iff (n : ℤ) : IsShort n ↔ n.natAbs < 10 ^ Text.digitLimit :=
  Nat.length_toDigits_le_iff (by decide) (by decide)

theorem not_isShort_pow {k : ℕ} (h : Text.digitLimit ≤ k) : ¬ IsShort (10 ^ k) := by
  have hvalue : (10 ^ k : ℤ).natAbs = 10 ^ k := Int.natAbs_pow 10 k
  rw [isShort_iff, hvalue, Nat.not_lt]
  exact Nat.pow_le_pow_right (by decide) h

theorem itemObstacle?_eq_none_iff (room : ℕ) (xs : List Json) :
    itemObstacle? room xs = none ↔ ∀ x ∈ xs, obstacle? room x = none := by
  induction xs with
  | nil => simp [itemObstacle?]
  | cons x xs ih => rw [itemObstacle?, Option.or_eq_none_iff, ih, List.forall_mem_cons]

theorem memberObstacle?_eq_none_iff (room : ℕ) (members : List (Text × Json)) :
    memberObstacle? room members = none ↔ ∀ m ∈ members, obstacle? room m.2 = none := by
  induction members with
  | nil => simp [memberObstacle?]
  | cons m members ih => rw [memberObstacle?, Option.or_eq_none_iff, ih, List.forall_mem_cons]

theorem obstacle?_eq_none_iff {depth : ℕ} {j : Json} (h : Plain (fun _ => True) depth j)
    (room : ℕ) : obstacle? room j = none ↔ Plain IsShort room j := by
  induction h generalizing room with
  | null depth => exact ⟨fun _ => .null room, fun _ => rfl⟩
  | bool depth b => exact ⟨fun _ => .bool room b, fun _ => rfl⟩
  | text depth s => exact ⟨fun _ => .text room s, fun _ => rfl⟩
  | @int depth n _ =>
    have hlong : obstacle? room (.int n) = none ↔ IsShort n := by
      rw [obstacle?, IsShort, ← Nat.not_lt]
      split <;> simp [*]
    rw [hlong]
    refine ⟨.int room, fun hplain => ?_⟩
    cases hplain with
    | int _ hn => exact hn
  | list hxs ih =>
    cases room with
    | zero => exact ⟨nofun, nofun⟩
    | succ room =>
      rw [obstacle?, itemObstacle?_eq_none_iff]
      refine ⟨fun hnone => .list fun x hx => (ih x hx room).mp (hnone x hx), fun hplain => ?_⟩
      cases hplain with
      | list hshort => exact fun x hx => (ih x hx room).mpr (hshort x hx)
  | object hkeys hmembers ih =>
    cases room with
    | zero => exact ⟨nofun, nofun⟩
    | succ room =>
      rw [obstacle?, memberObstacle?_eq_none_iff]
      refine ⟨fun hnone => .object hkeys fun m hm => (ih m hm room).mp (hnone m hm),
        fun hplain => ?_⟩
      cases hplain with
      | object _ hshort => exact fun m hm => (ih m hm room).mpr (hshort m hm)

theorem eq_line_of_serialize {room : ℕ} {j : Json} {text : Text}
    (h : serialize room j = .ok text) : text = j.line := by
  unfold serialize at h
  split at h
  · cases h
  · exact (Except.ok.inj h).symm

theorem serialize_of_fits {room : ℕ} {j : Json} (h : Plain IsShort room j) :
    serialize room j = .ok j.line := by
  rw [serialize, (obstacle?_eq_none_iff (h.imp fun _ _ => trivial) room).mpr h]

theorem exists_obstacle_of_not_fits {depth room : ℕ} {j : Json}
    (hj : Plain (fun _ => True) depth j) (h : ¬ Plain IsShort room j) :
    ∃ obstacle, serialize room j = .error obstacle := by
  cases hobstacle : obstacle? room j with
  | none => exact absurd ((obstacle?_eq_none_iff hj room).mp hobstacle) h
  | some obstacle => exact ⟨obstacle, by rw [serialize, hobstacle]⟩

end CommentTags.Json
