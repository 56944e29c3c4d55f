import CommentTags.Proofs.Json.Documents
import CommentTags.Proofs.Text.Keyed

namespace CommentTags.Json

theorem lookup_foldl_put (members done : List (Text × Json)) (key : Text) :
    (members.foldl (fun ms m => put m.1 m.2 ms) done).lookup key =
      (members.reverse.lookup key).or (done.lookup key) := by
  induction members generalizing done with
  | nil => simp
  | cons m members ih =>
    obtain ⟨k, value⟩ := m
    rw [List.foldl_cons, ih, List.reverse_cons, List.lookup_append, Option.or_assoc]
    by_cases hk : key = k
    · subst hk
      simp [lookup_put]
    · have hne : (key == k) = false := beq_eq_false_iff_ne.mpr hk
      simp [lookup_put_of_ne k key value done hk, List.lookup_cons, hne]

theorem member?_ofMembers (members : List (Text × Json)) (key : Text) :
    (ofMembers members).member? key = members.reverse.lookup key := by
  simpa [ofMembers, member?] using lookup_foldl_put members [] key

theorem map_fst_put (key : Text) (value : Json) (members : List (Text × Json)) :
    (put key value members).map Prod.fst =
      if key ∈ members.map Prod.fst then members.map Prod.fst
      else members.map Prod.fst ++ [key] := by
  induction members with
  | nil => rfl
  | cons m members ih =>
    obtain ⟨k, v⟩ := m
    by_cases hk : k = key
    · simp [put, hk]
    · rw [put, if_neg hk, List.map_cons, ih]
      by_cases hmem : key ∈ members.map Prod.fst
      · simp [hmem]
      · simp [hmem, Ne.symm hk]

theorem nodup_put {members : List (Text × Json)} (h : (members.map Prod.fst).Nodup) (key : Text)
    (value : Json) : ((put key value members).map Prod.fst).Nodup := by
  rw [map_fst_put]
  split
  · exact h
  · rename_i hnew
    refine List.nodup_append.mpr ⟨h, List.pairwise_singleton _ key, ?_⟩
    rintro k hk _ hkey rfl
    obtain rfl := List.mem_singleton.mp hkey
    exact hnew hk

theorem mem_put {key : Text} {value : Json} {members : List (Text × Json)} {m : Text × Json}
    (h : m ∈ put key value members) : m = (key, value) ∨ m ∈ members := by
  induction members with
  | nil => exact .inl (List.mem_singleton.mp h)
  | cons first members ih =>
    obtain ⟨k, v⟩ := first
    by_cases hk : k = key
    · rw [put, if_pos hk, hk] at h
      exact (List.mem_cons.mp h).imp_right (List.mem_cons_of_mem _)
    · rw [put, if_neg hk] at h
      rcases List.mem_cons.mp h with rfl | h
      · exact .inr List.mem_cons_self
      · exact (ih h).imp_right (List.mem_cons_of_mem _)

theorem map_fst_foldl_put {members : List (Text × Json)} (h : (members.map Prod.fst).Nodup)
    (done : List (Text × Json)) :
    (members.foldl (fun ms m => put m.1 m.2 ms) done).map Prod.fst =
      done.map Prod.fst ++ (members.map Prod.fst).filter (· ∉ done.map Prod.fst) := by
  induction members generalizing done with
  | nil => simp
  | cons m members ih =>
    rw [List.map_cons, List.nodup_cons] at h
    rw [List.foldl_cons, ih h.2, map_fst_put, List.map_cons]
    by_cases hm : m.1 ∈ done.map Prod.fst
    · rw [if_pos hm, List.filter_cons_of_neg (by simpa using hm)]
    · have hfilter : (members.map Prod.fst).filter (· ∉ done.map Prod.fst ++ [m.1]) =
          (members.map Prod.fst).filter (· ∉ done.map Prod.fst) := by
        refine List.filter_congr fun key hkey => ?_
        have hne : key ≠ m.1 := fun he => h.1 (he ▸ hkey)
        simp [hne]
      rw [if_neg hm, hfilter, List.filter_cons_of_pos (by simpa using hm), List.append_assoc]
      rfl

theorem plain_put {admits : ℤ → Prop} {depth : ℕ} {members : List (Text × Json)} {key : Text}
    {value : Json} (h : Plain admits (depth + 1) (.object members))
    (hvalue : Plain admits depth value) :
    Plain admits (depth + 1) (.object (put key value members)) := by
  cases h with
  | object hkeys hmembers =>
    refine .object (nodup_put hkeys key value) fun m hm => ?_
    rcases mem_put hm with rfl | hm
    · exact hvalue
    · exact hmembers m hm

theorem plain_foldl_put {admits : ℤ → Prop} {depth : ℕ} {members done : List (Text × Json)}
    (h : ∀ m ∈ members, Plain admits depth m.2)
    (hdone : Plain admits (depth + 1) (.object done)) :
    Plain admits (depth + 1) (.object (members.foldl (fun ms m => put m.1 m.2 ms) done)) := by
  induction members generalizing done with
  | nil => exact hdone
  | cons m members ih =>
    rw [List.forall_mem_cons] at h
    exact ih h.2 (plain_put hdone h.1)

inductive Distinct : Json → Prop
  | null : Distinct .null
  | bool (b : Bool) : Distinct (.bool b)
  | int (n : ℤ) : Distinct (.int n)
  | real (x : Float) : Distinct (.real x)
  | text (s : Text) : Distinct (.text s)
  | list {xs : List Json} (h : ∀ x ∈ xs, Distinct x) : Distinct (.list xs)
  | object {members : List (Text × Json)} (hkeys : (members.map Prod.fst).Nodup)
    (h : ∀ m ∈ members, Distinct m.2) : Distinct (.object members)

theorem distinct_ofMembers {members : List (Text × Json)} (h : ∀ m ∈ members, Distinct m.2) :
    Distinct (ofMembers members) := by
  have hfold : ∀ done : List (Text × Json), (done.map Prod.fst).Nodup →
      (∀ m ∈ done, Distinct m.2) →
      Distinct (.object (members.foldl (fun ms m => put m.1 m.2 ms) done)) := by
    induction members with
    | nil => exact fun done hkeys hdone => .object hkeys hdone
    | cons m members ih =>
      intro done hkeys hdone
      rw [List.forall_mem_cons] at h
      refine ih h.2 _ (nodup_put hkeys m.1 m.2) fun m' hm' => ?_
      rcases mem_put hm' with rfl | hm'
      · exact h.1
      · exact hdone m' hm'
  exact hfold [] List.nodup_nil (List.forall_mem_nil _)

theorem distinct_of_literal? {s r : Text} {v : Json} (h : literal? s = some (v, r)) :
    Distinct v := by
  unfold literal? at h
  obtain ⟨w, hw, hv⟩ := List.exists_of_findSome?_eq_some h
  split at hv
  · obtain rfl := (Prod.mk.inj (Option.some.inj hv)).1
    simp only [List.mem_cons, List.not_mem_nil, or_false] at hw
    rcases hw with rfl | rfl | rfl | rfl | rfl | rfl
    · exact .null
    · exact .bool true
    · exact .bool false
    · exact .real _
    · exact .real _
    · exact .real _
  · cases hv

theorem distinct_of_readNumber {s r : Text} {v : Json} (h : readNumber s = .ok (v, r)) :
    Distinct v := by
  unfold readNumber at h
  split at h
  all_goals
    dsimp only at h
    split at h
    · cases h
    · split at h
      · split at h
        · cases h
        · obtain ⟨rfl, -⟩ := Prod.mk.inj (Except.ok.inj h)
          exact .int _
      · obtain ⟨rfl, -⟩ := Prod.mk.inj (Except.ok.inj h)
        exact .real _

theorem exists_of_map_ok {ε α β : Type} {f : α → β} {x : Except ε α} {b : β}
    (h : x.map f = .ok b) : ∃ a, x = .ok a ∧ f a = b := by
  cases x with
  | error e => cases h
  | ok a => exact ⟨a, rfl, Except.ok.inj h⟩

theorem exists_of_bind_ok {ε α β : Type} {f : α → Except ε β} {x : Except ε α} {b : β}
    (h : x >>= f = .ok b) : ∃ a, x = .ok a ∧ f a = .ok b := by
  cases x with
  | error e => cases h
  | ok a => exact ⟨a, rfl, h⟩

section Reader

variable {fuel depth : ℕ} {s rest : Text}

theorem exists_of_readItems {xs : List Json}
    (h : readItems (fuel + 1) depth s = .ok (xs, rest)) :
    ∃ x r, readValue fuel depth s = .ok (x, r) ∧
      (xs = [x] ∨ ∃ s' xs', readItems fuel depth s' = .ok (xs', rest) ∧ xs = x :: xs') := by
  rw [readItems] at h
  obtain ⟨⟨x, r⟩, hx, h⟩ := exists_of_bind_ok h
  refine ⟨x, r, hx, ?_⟩
  dsimp only at h
  split at h
  · obtain ⟨rfl, -⟩ := Prod.mk.inj (Except.ok.inj h)
    exact .inl rfl
  · obtain ⟨⟨xs', r'⟩, hxs, h⟩ := exists_of_bind_ok h
    obtain ⟨rfl, rfl⟩ := Prod.mk.inj (Except.ok.inj h)
    exact .inr ⟨_, xs', hxs, rfl⟩
  · cases h

theorem exists_of_readMembers {members : List (Text × Json)}
    (h : readMembers (fuel + 1) depth s = .ok (members, rest)) :
    ∃ key s' value r, readValue fuel depth s' = .ok (value, r) ∧
      (members = [(key, value)] ∨ ∃ s'' members',
        readMembers fuel depth s'' = .ok (members', rest) ∧
          members = (key, value) :: members') := by
  unfold readMembers at h
  split at h
  · obtain ⟨⟨key, r⟩, -, h⟩ := exists_of_bind_ok h
    dsimp only at h
    split at h
    · obtain ⟨⟨value, r'⟩, hvalue, h⟩ := exists_of_bind_ok h
      refine ⟨key, _, value, r', hvalue, ?_⟩
      dsimp only at h
      split at h
      · obtain ⟨rfl, -⟩ := Prod.mk.inj (Except.ok.inj h)
        exact .inl rfl
      · obtain ⟨⟨members', r''⟩, hmembers, h⟩ := exists_of_bind_ok h
        obtain ⟨rfl, rfl⟩ := Prod.mk.inj (Except.ok.inj h)
        exact .inr ⟨_, members', hmembers, rfl⟩
      · cases h
    · cases h
  · cases h

theorem exists_of_readValue {v : Json} (h : readValue (fuel + 1) depth s = .ok (v, rest)) :
    (∃ t, v = .text t) ∨ v = .list [] ∨ v = .object [] ∨ literal? s = some (v, rest) ∨
      readNumber s = .ok (v, rest) ∨
      (∃ depth' s' xs, readItems fuel depth' s' = .ok (xs, rest) ∧ v = .list xs) ∨
      ∃ depth' s' members, readMembers fuel depth' s' = .ok (members, rest) ∧
        v = .ofMembers members := by
  unfold readValue at h
  split at h
  · obtain ⟨⟨t, r⟩, -, h⟩ := exists_of_map_ok h
    obtain ⟨rfl, -⟩ := Prod.mk.inj h
    exact .inl ⟨t, rfl⟩
  · cases h
  · split at h
    · obtain ⟨rfl, -⟩ := Prod.mk.inj (Except.ok.inj h)
      exact .inr (.inl rfl)
    · obtain ⟨⟨xs, r⟩, hxs, h⟩ := exists_of_map_ok h
      obtain ⟨rfl, rfl⟩ := Prod.mk.inj h
      exact .inr (.inr (.inr (.inr (.inr (.inl ⟨_, _, xs, hxs, rfl⟩)))))
  · cases h
  · split at h
    · obtain ⟨rfl, -⟩ := Prod.mk.inj (Except.ok.inj h)
      exact .inr (.inr (.inl rfl))
    · obtain ⟨⟨members, r⟩, hmembers, h⟩ := exists_of_map_ok h
      obtain ⟨rfl, rfl⟩ := Prod.mk.inj h
      exact .inr (.inr (.inr (.inr (.inr (.inr ⟨_, _, members, hmembers, rfl⟩)))))
  · cases hword : literal? s with
    | none =>
      rw [hword] at h
      exact .inr (.inr (.inr (.inr (.inl h))))
    | some read =>
      rw [hword] at h
      exact .inr (.inr (.inr (.inl (congrArg some (Except.ok.inj h)))))

end Reader

theorem member?_of_readMembers {fuel depth : ℕ} {s rest : Text} {members : List (Text × Json)}
    (h : readMembers fuel depth s = .ok (members, rest)) :
    ∃ v, readValue (fuel + 1) (depth + 1) ('{' :: s) = .ok (v, rest) ∧
      ∀ key, v.member? key = members.reverse.lookup key := by
  have hquote : ∃ r, s = '"' :: r := by
    cases fuel with
    | zero => cases h
    | succ fuel =>
      unfold readMembers at h
      split at h
      · exact ⟨_, rfl⟩
      · cases h
  obtain ⟨r, rfl⟩ := hquote
  have hskip : skipSpace ('"' :: r) = '"' :: r := rfl
  exact ⟨_, readValue_object hskip (by decide) h, member?_ofMembers members⟩

structure ReadsDistinct (fuel : ℕ) : Prop where
  value : ∀ {depth s v r}, readValue fuel depth s = .ok (v, r) → Distinct v
  items : ∀ {depth s xs r}, readItems fuel depth s = .ok (xs, r) → ∀ x ∈ xs, Distinct x
  members : ∀ {depth s members r}, readMembers fuel depth s = .ok (members, r) →
    ∀ m ∈ members, Distinct m.2

theorem readsDistinct (fuel : ℕ) : ReadsDistinct fuel := by
  induction fuel with
  | zero => exact ⟨nofun, nofun, nofun⟩
  | succ fuel ih =>
    refine ⟨fun h => ?_, fun h => ?_, fun h => ?_⟩
    · rcases exists_of_readValue h with ⟨t, rfl⟩ | rfl | rfl | hword | hnumber |
        ⟨depth, s, xs, hxs, rfl⟩ | ⟨depth, s, members, hmembers, rfl⟩
      · exact .text t
      · exact .list (List.forall_mem_nil _)
      · exact .object List.nodup_nil (List.forall_mem_nil _)
      · exact distinct_of_literal? hword
      · exact distinct_of_readNumber hnumber
      · exact .list (ih.items hxs)
      · exact distinct_ofMembers (ih.members hmembers)
    · obtain ⟨x, r, hx, rfl | ⟨s', xs', hxs, rfl⟩⟩ := exists_of_readItems h
      · exact List.forall_mem_singleton.mpr (ih.value hx)
      · exact List.forall_mem_cons.mpr ⟨ih.value hx, ih.items hxs⟩
    · obtain ⟨key, s', value, r, hvalue, rfl | ⟨s'', more, hmore, rfl⟩⟩ := exists_of_readMembers h
      · exact List.forall_mem_singleton.mpr (ih.value hvalue)
      · exact List.forall_mem_cons.mpr ⟨ih.value hvalue, ih.members hmore⟩

theorem distinct_of_parse {s : Text} {room : ℕ} {v : Json} (h : parse s room = .ok v) :
    Distinct v := by
  unfold parse at h
  split at h
  · cases h
  · obtain ⟨⟨value, r⟩, hread, h⟩ := exists_of_bind_ok h
    dsimp only at h
    split at h
    · obtain rfl := Except.ok.inj h
      exact (readsDistinct _).value hread
    · cases h

end CommentTags.Json
