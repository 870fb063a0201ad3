/-!
# Text cut at a separator

Cutting keeps every piece, the empty ones too, so a text always has one piece more than it has
separators, and joining the pieces gives the text back (`join_pieces`).
-/

set_option autoImplicit false

namespace Heartbeat.Text

/-- The pieces of a text between the separators. -/
def pieces (separator : Char) : List Char → List (List Char)
  | [] => [[]]
  | c :: rest =>
    if c = separator then [] :: pieces separator rest
    else
      match pieces separator rest with
      | [] => [[c]]
      | first :: others => (c :: first) :: others

/-- The text made of pieces with a separator between neighbours. -/
def join (separator : Char) : List (List Char) → List Char
  | [] => []
  | [piece] => piece
  | piece :: others => piece ++ separator :: join separator others

theorem pieces_ne_nil (separator : Char) (text : List Char) : pieces separator text ≠ [] := by
  cases text with
  | nil => simp [pieces]
  | cons c rest =>
    unfold pieces
    split
    · simp
    · split <;> simp

/-- Joining the pieces of a text gives the text. -/
theorem join_pieces (separator : Char) (text : List Char) :
    join separator (pieces separator text) = text := by
  induction text with
  | nil => rfl
  | cons c rest ih =>
    by_cases here : c = separator
    · subst here
      match shape : pieces c rest with
      | [] => exact absurd shape (pieces_ne_nil c rest)
      | first :: others =>
        rw [shape] at ih
        simp [pieces, shape, join, ih]
    · match shape : pieces separator rest with
      | [] => exact absurd shape (pieces_ne_nil separator rest)
      | [piece] =>
        rw [shape] at ih
        simpa [pieces, here, shape, join] using ih
      | first :: second :: others =>
        rw [shape] at ih
        simpa [pieces, here, shape, join] using ih

/-- A text without separators is its own only piece. -/
theorem pieces_of_not_mem {separator : Char} {text : List Char} (free : separator ∉ text) :
    pieces separator text = [text] := by
  induction text with
  | nil => rfl
  | cons c rest ih =>
    simp only [List.mem_cons, not_or] at free
    have other : c ≠ separator := fun same => free.1 same.symm
    simp [pieces, other, ih free.2]

/-- Cutting a piece without separators that is followed by one. -/
theorem pieces_append_cons {separator : Char} {piece : List Char} (free : separator ∉ piece)
    (rest : List Char) :
    pieces separator (piece ++ separator :: rest) = piece :: pieces separator rest := by
  induction piece with
  | nil => simp [pieces]
  | cons c others ih =>
    simp only [List.mem_cons, not_or] at free
    have other : c ≠ separator := fun same => free.1 same.symm
    simp [pieces, other, ih free.2]

end Heartbeat.Text
