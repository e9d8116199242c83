/-!
# Cutting a list at a separator

`pieces` cuts at every separator and never answers the empty list; `cut` cuts at the first
one. Joining the pieces with the separator gives the list back (`join_pieces`). `lines` cuts
a text into its lines: a line ends with a line feed, or with a carriage return and a line
feed, and a last line that is empty does not count.
-/

namespace SieveRun.Text

variable {α : Type} [DecidableEq α]

/-- The runs between the separators, in order; a list without separators is its own only run. -/
def pieces (sep : α) : List α → List (List α)
  | [] => [[]]
  | x :: xs =>
    if x = sep then [] :: pieces sep xs
    else match pieces sep xs with
      | [] => [[x]]
      | piece :: rest => (x :: piece) :: rest

/-- The runs with one separator between neighbours. -/
def join (sep : α) : List (List α) → List α
  | [] => []
  | [piece] => piece
  | piece :: rest => piece ++ sep :: join sep rest

/-- What stands before and after the first separator, if there is one. -/
def cut (sep : α) : List α → Option (List α × List α)
  | [] => none
  | x :: xs =>
    if x = sep then some ([], xs)
    else (cut sep xs).map fun parts => (x :: parts.1, parts.2)

/-- What follows `start`, if the list starts with it. -/
def afterStart? (start : List α) (xs : List α) : Option (List α) :=
  match start, xs with
  | [], xs => some xs
  | _ :: _, [] => none
  | s :: start, x :: xs => if s = x then afterStart? start xs else none

/-- A line without the carriage return that ends it. -/
def withoutReturn (line : List Char) : List Char :=
  if line.getLast? = some '\r' then line.dropLast else line

/-- The lines among the runs between line feeds: all but the last were ended by a line feed. -/
def linesOfPieces : List (List Char) → List (List Char)
  | [] => []
  | [last] => if last = [] then [] else [last]
  | line :: rest => withoutReturn line :: linesOfPieces rest

/-- The lines of a text. -/
def lines (text : List Char) : List (List Char) := linesOfPieces (pieces '\n' text)

theorem pieces_ne_nil (sep : α) (xs : List α) : pieces sep xs ≠ [] := by
  cases xs with
  | nil => simp [pieces]
  | cons x xs =>
    simp only [pieces]
    split
    · simp
    · split <;> simp

theorem join_pieces (sep : α) (xs : List α) : join sep (pieces sep xs) = xs := by
  induction xs with
  | nil => rfl
  | cons x xs ih =>
    have hne := pieces_ne_nil sep xs
    simp only [pieces]
    split
    · rename_i h
      subst h
      rw [join]
      · simp [ih]
      · exact hne
    · split
      · rename_i h
        exact absurd h hne
      · rename_i piece rest h
        rw [h] at ih
        cases rest with
        | nil => simpa [join] using ih
        | cons next rest => simpa [join] using ih

end SieveRun.Text
