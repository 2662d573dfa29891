/-!
# Pieces between separators

A list is split at a separator into one piece more than it holds separators. Joined again with the
separator between them, the pieces are the list.
-/
namespace HostAccess.Pieces

variable {α : Type}

def split [DecidableEq α] (sep : α) : List α → List (List α)
  | [] => [[]]
  | x :: rest =>
    match split sep rest with
    | [] => [[x]]
    | piece :: pieces => if x = sep then [] :: piece :: pieces else (x :: piece) :: pieces

def join (sep : α) : List (List α) → List α
  | [] => []
  | [piece] => piece
  | piece :: pieces => piece ++ sep :: join sep pieces

theorem split_ne_nil [DecidableEq α] (sep : α) (xs : List α) : split sep xs ≠ [] := by
  cases xs with
  | nil => simp [split]
  | cons x rest =>
    rw [split]
    split
    · simp
    · split <;> simp

/-- Splitting loses nothing. -/
theorem join_split [DecidableEq α] (sep : α) (xs : List α) : join sep (split sep xs) = xs := by
  induction xs with
  | nil => rfl
  | cons x rest ih =>
    rw [split]
    cases h : split sep rest with
    | nil => exact absurd h (split_ne_nil sep rest)
    | cons piece pieces =>
      rw [h] at ih
      by_cases hx : x = sep
      · simp [hx, join, ih]
      · cases pieces with
        | nil => simp_all [join]
        | cons q qs => simp_all [join]

end HostAccess.Pieces
