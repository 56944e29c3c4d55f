import CommentTags.Journal.Line
import CommentTags.Proofs.Json.Keys
import CommentTags.Proofs.Json.Obstacles
import CommentTags.Proofs.Json.Stream

namespace CommentTags.LogLine

variable {l : LogLine}

/-- What is bound to a record is made of strings, whole numbers, truth values, nulls, lists and
objects. -/
def IsPlain (l : LogLine) : Prop := (Json.object l.extra).IsPlain

/-- No number in what is written is too long, and nothing lies too deep in something else. -/
def Fits (room : ℕ) (l : LogLine) : Prop := Json.Plain Json.IsShort room l.document

def incidentKey : Text := "err".toList

def bound (l : LogLine) : List (Text × Json) :=
  l.extra.foldl (fun ms m => Json.put m.1 m.2 ms) l.ownMembers

theorem members_of_none (h : l.incident = none) : l.members = l.bound := by
  rw [members, h]
  rfl

theorem members_of_some {i : Incident} (h : l.incident = some i) :
    l.members = Json.put incidentKey i.json l.bound := by
  rw [members, h]
  rfl

theorem nodup_extra {admits : ℤ → Prop} {depth : ℕ}
    (h : Json.Plain admits depth (.object l.extra)) : (l.extra.map Prod.fst).Nodup := by
  cases h with
  | object hkeys _ => exact hkeys

theorem lookup_bound (hkeys : (l.extra.map Prod.fst).Nodup) (key : Text) :
    l.bound.lookup key = (l.extra.lookup key).or (l.ownMembers.lookup key) := by
  rw [bound, Json.lookup_foldl_put, Text.lookup_reverse hkeys]

def ownKeys : List Text := ["level".toList, "time".toList, "msg".toList, "pid".toList,
  "module".toList]

theorem map_fst_ownMembers (l : LogLine) : l.ownMembers.map Prod.fst = ownKeys := rfl

def keys (l : LogLine) : List Text :=
  ownKeys ++ (l.extra.map Prod.fst).filter (· ∉ ownKeys) ++
    if l.incident.isSome ∧ incidentKey ∉ l.extra.map Prod.fst then [incidentKey] else []

theorem incidentKey_not_mem_ownKeys : incidentKey ∉ ownKeys := by decide

theorem map_fst_members (hkeys : (l.extra.map Prod.fst).Nodup) :
    l.members.map Prod.fst = l.keys := by
  have hbound : l.bound.map Prod.fst =
      ownKeys ++ (l.extra.map Prod.fst).filter (· ∉ ownKeys) := by
    rw [bound, Json.map_fst_foldl_put hkeys, map_fst_ownMembers]
  have hmem : incidentKey ∈ l.bound.map Prod.fst ↔ incidentKey ∈ l.extra.map Prod.fst := by
    rw [hbound, List.mem_append, List.mem_filter]
    simp [incidentKey_not_mem_ownKeys]
  unfold keys
  rw [← hbound]
  -- The incident is put in last, at the end or where its key stands already.
  cases hincident : l.incident with
  | none =>
    rw [members_of_none hincident, if_neg (fun h => nomatch h.1), List.append_nil]
  | some i =>
    rw [members_of_some hincident, Json.map_fst_put]
    by_cases hextra : incidentKey ∈ l.extra.map Prod.fst
    · rw [if_pos (hmem.mpr hextra), if_neg (fun h => h.2 hextra), List.append_nil]
    · rw [if_neg (fun h => hextra (hmem.mp h)), if_pos ⟨rfl, hextra⟩]

theorem plain_bound {admits : ℤ → Prop} {depth : ℕ}
    (hextra : Json.Plain admits (depth + 1) (.object l.extra)) (htime : admits l.time)
    (hprocess : admits l.process) : Json.Plain admits (depth + 1) (.object l.bound) := by
  have hown : Json.Plain admits (depth + 1) (.object l.ownMembers) := by
    refine .object (by rw [map_fst_ownMembers]; decide) ?_
    intro m hm
    simp only [ownMembers, List.mem_cons, List.not_mem_nil, or_false] at hm
    rcases hm with rfl | rfl | rfl | rfl | rfl
    · exact .text _ _
    · exact .int _ htime
    · exact .text _ _
    · exact .int _ hprocess
    · cases l.source with
      | none => exact .null _
      | some s => exact .text _ _
  cases hextra with
  | object _ hmembers => exact Json.plain_foldl_put hmembers hown

theorem plain_members {admits : ℤ → Prop} {depth : ℕ}
    (hextra : Json.Plain admits (depth + 2) (.object l.extra)) (htime : admits l.time)
    (hprocess : admits l.process) : Json.Plain admits (depth + 2) (.object l.members) := by
  have hbound := plain_bound hextra htime hprocess
  cases hincident : l.incident with
  | none =>
    rw [members_of_none hincident]
    exact hbound
  | some i =>
    rw [members_of_some hincident]
    have hkeys : ["type".toList, "message".toList].Nodup := by decide
    refine Json.plain_put hbound (.object hkeys ?_)
    intro m hm
    simp only [List.mem_cons, List.not_mem_nil, or_false] at hm
    rcases hm with rfl | rfl <;> exact .text _ _

/-- The members hold what the record says: its own values, what is bound to it in their place or
behind them, and the incident in the place of what is bound to its name. -/
structure ToldBy (l : LogLine) (members : List (Text × Json)) : Prop where
  order : members.map Prod.fst = l.keys
  incident : ∀ i, l.incident = some i → members.lookup incidentKey = some i.json
  extra : ∀ key value, l.extra.lookup key = some value →
    (key = incidentKey → l.incident = none) → members.lookup key = some value
  own : ∀ key ∈ ownKeys, l.extra.lookup key = none →
    members.lookup key = l.ownMembers.lookup key

theorem lookup_members_of_ne {key : Text} (hkeys : (l.extra.map Prod.fst).Nodup)
    (hkey : key = incidentKey → l.incident = none) :
    l.members.lookup key = (l.extra.lookup key).or (l.ownMembers.lookup key) := by
  cases hincident : l.incident with
  | none => rw [members_of_none hincident, lookup_bound hkeys]
  | some i =>
    have hne : key ≠ incidentKey := by
      intro he
      rw [hkey he] at hincident
      cases hincident
    rw [members_of_some hincident, Json.lookup_put_of_ne _ _ _ _ hne, lookup_bound hkeys]

theorem toldBy_members (hkeys : (l.extra.map Prod.fst).Nodup) : l.ToldBy l.members where
  order := map_fst_members hkeys
  incident i hincident := by rw [members_of_some hincident, Json.lookup_put]
  extra key value hvalue hkey := by rw [lookup_members_of_ne hkeys hkey, hvalue, Option.some_or]
  own key hown hextra := by
    have hkey : key ≠ incidentKey := fun he => incidentKey_not_mem_ownKeys (he ▸ hown)
    rw [lookup_members_of_ne hkeys (fun he => absurd he hkey), hextra, Option.none_or]

theorem IsPlain.nodup (h : l.IsPlain) : (l.extra.map Prod.fst).Nodup := by
  obtain ⟨depth, hextra⟩ := h
  exact nodup_extra hextra

theorem IsPlain.document (h : l.IsPlain) : l.document.IsPlain := by
  obtain ⟨depth, hextra⟩ := h
  exact ⟨depth + 2, plain_members (hextra.mono (Nat.le_add_right depth 2)) trivial trivial⟩

theorem fits_of_extra {room : ℕ}
    (hextra : Json.Plain Json.IsShort (room + 2) (.object l.extra)) (htime : Json.IsShort l.time)
    (hprocess : Json.IsShort l.process) : l.Fits (room + 2) :=
  plain_members hextra htime hprocess

theorem Fits.parse_text {room : ℕ} (h : l.Fits room) :
    Json.parse l.text room = .ok (.object l.members) :=
  Json.parse_line h

theorem Fits.serialize {room : ℕ} (h : l.Fits room) : l.serialize room = .ok l.text :=
  Json.serialize_of_fits h

theorem IsPlain.serialize_eq_ok_iff (h : l.IsPlain) (room : ℕ) :
    l.serialize room = .ok l.text ↔ l.Fits room := by
  obtain ⟨depth, hdocument⟩ := h.document
  refine ⟨fun hok => ?_, Fits.serialize⟩
  by_contra hfits
  obtain ⟨obstacle, herror⟩ := Json.exists_obstacle_of_not_fits hdocument hfits
  rw [LogLine.serialize, herror] at hok
  cases hok

theorem IsPlain.exists_obstacle (h : l.IsPlain) {room : ℕ} (hfits : ¬ l.Fits room) :
    ∃ obstacle, l.serialize room = .error obstacle := by
  obtain ⟨depth, hdocument⟩ := h.document
  exact Json.exists_obstacle_of_not_fits hdocument hfits

end CommentTags.LogLine
