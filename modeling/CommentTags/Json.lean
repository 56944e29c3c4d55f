import CommentTags.Text

namespace CommentTags

inductive Json where
  | null
  | bool (b : Bool)
  | int (n : Int)
  | real (x : Float)
  | text (s : Text)
  | list (xs : List Json)
  | object (members : List (Text × Json))

namespace Json

/-- Sets a member: a present key keeps its place, a new one goes to the end. -/
def put (key : Text) (value : Json) : List (Text × Json) → List (Text × Json)
  | [] => [(key, value)]
  | (k, v) :: rest => if k = key then (k, value) :: rest else (k, v) :: put key value rest

theorem lookup_put (key : Text) (value : Json) (members : List (Text × Json)) :
    (put key value members).lookup key = some value := by
  induction members with
  | nil => exact List.lookup_cons_self
  | cons m rest ih =>
    obtain ⟨k, v⟩ := m
    by_cases h : k = key
    · subst h
      simp [put]
    · have h' : (key == k) = false := by simpa using fun e => h e.symm
      simp [put, h, List.lookup_cons, h', ih]

theorem lookup_put_of_ne (key other : Text) (value : Json) (members : List (Text × Json))
    (h : other ≠ key) : (put key value members).lookup other = members.lookup other := by
  have h' : (other == key) = false := by simpa using h
  induction members with
  | nil => simp [put, List.lookup_cons, h']
  | cons m rest ih =>
    obtain ⟨k, v⟩ := m
    by_cases hk : k = key
    · simp [put, hk, List.lookup_cons, h']
    · simp [put, hk, List.lookup_cons, ih]

/-- An object from members as they are read: of one key, the last value counts. -/
def ofMembers (members : List (Text × Json)) : Json :=
  .object (members.foldl (fun ms m => put m.1 m.2 ms) [])

def member? (key : Text) : Json → Option Json
  | .object members => members.lookup key
  | _ => none

end Json

end CommentTags
