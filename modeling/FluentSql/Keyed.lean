/-!
# Keyed lists

Lists of things under keys. Putting a thing under a key replaces the first
one that is there and keeps its key, or adds the thing at the end, so keys
stay in the order in which they first came.
-/

set_option autoImplicit false

namespace FluentSql.Keyed

variable {κ α : Type} [BEq κ]

def put (k : κ) (x : α) : List (κ × α) → List (κ × α)
  | [] => [(k, x)]
  | (key, y) :: ys => if key == k then (key, x) :: ys else (key, y) :: put k x ys

def ofList (entries : List (κ × α)) : List (κ × α) :=
  entries.foldl (fun kept entry => put entry.1 entry.2 kept) []

def find? (k : κ) : List (κ × α) → Option α
  | [] => none
  | (key, y) :: ys => if key == k then some y else find? k ys

theorem keys_put (k : κ) (x : α) (ys : List (κ × α)) :
    (put k x ys).map Prod.fst =
      if ys.any (fun y => y.1 == k) then ys.map Prod.fst else ys.map Prod.fst ++ [k] := by
  induction ys with
  | nil => simp [put]
  | cons y ys ih =>
    by_cases same : (y.1 == k) = true
    · simp [put, same]
    · simp only [put, if_neg same, List.map_cons, ih, List.any_cons]
      by_cases member : ys.any (fun y => y.1 == k) = true
      · simp [member]
      · simp [member, same]

/-- What is put under a key is found under it, if the key equals itself. -/
theorem find?_put_self (k : κ) (x : α) (ys : List (κ × α)) (equal : (k == k) = true) :
    find? k (put k x ys) = some x := by
  induction ys with
  | nil => simp [put, find?, equal]
  | cons y ys ih =>
    by_cases same : (y.1 == k) = true
    · simp [put, find?, same]
    · simp [put, find?, same, ih]

theorem find?_put_other (k other : κ) (x : α) (ys : List (κ × α))
    (different : (k == other) = false)
    (apart : ∀ key : κ, (key == k) = true → (key == other) = false) :
    find? other (put k x ys) = find? other ys := by
  induction ys with
  | nil => simp [put, find?, different]
  | cons y ys ih =>
    by_cases same : (y.1 == k) = true
    · simp [put, find?, same, apart y.1 same]
    · simp [put, find?, same, ih]

end FluentSql.Keyed
