import Mathlib.Data.List.Basic

/-! # Lines of a text

A delimiter ends a line and is no part of it; what stands after the last
delimiter is a line when there is any of it.  Texts that end with a delimiter are
the ones made of lines. -/
set_option autoImplicit false

universe u

namespace Lines

variable {α : Type u} [DecidableEq α]

/-- One line, and what is left of the text; nothing at its end. -/
def getline (delimiter : α) : List α → Option (List α × List α)
  | [] => none
  | a :: s =>
      some ((a :: s).takeWhile fun b => b ≠ delimiter,
        ((a :: s).dropWhile fun b => b ≠ delimiter).drop 1)

def lines (delimiter : α) : List α → List (List α)
  | [] => []
  | a :: s =>
      if a = delimiter then [] :: lines delimiter s
      else
        match lines delimiter s with
        | [] => [[a]]
        | line :: rest => (a :: line) :: rest

def unlines (delimiter : α) (ls : List (List α)) : List α :=
  ls.flatMap fun line => line ++ [delimiter]

/-- Nothing stands after the last delimiter. -/
def Whole (delimiter : α) (s : List α) : Prop := ∀ a, s.getLast? = some a → a = delimiter

variable {delimiter : α}

theorem lines_delimiter (s : List α) :
    lines delimiter (delimiter :: s) = [] :: lines delimiter s := by
  rw [lines, if_pos rfl]

theorem lines_cons {a : α} (letter : a ≠ delimiter) {s line : List α} {rest : List (List α)}
    (split : lines delimiter s = line :: rest) :
    lines delimiter (a :: s) = (a :: line) :: rest := by
  rw [lines, if_neg letter, split]

theorem lines_ne_nil {s : List α} (some : s ≠ []) : lines delimiter s ≠ [] := by
  cases s with
  | nil => exact absurd rfl some
  | cons a s =>
      unfold lines
      split
      · simp
      · split <;> simp

/-- Reading line by line until nothing is left gives the lines. -/
theorem lines_eq_getline (s : List α) :
    lines delimiter s =
      match getline delimiter s with
      | none => []
      | some (line, rest) => line :: lines delimiter rest := by
  induction s with
  | nil => rfl
  | cons a s ih =>
      by_cases ends : a = delimiter
      · subst ends
        rw [lines_delimiter]
        simp [getline]
      · cases s with
        | nil => simp [getline, lines, ends]
        | cons b s =>
            rw [lines_cons ends ih]
            simp [getline, ends]

theorem getline_length {s line rest : List α} (read : getline delimiter s = some (line, rest)) :
    rest.length < s.length := by
  cases s with
  | nil => cases read
  | cons a s =>
      obtain ⟨_, rfl⟩ := Prod.mk.inj (Option.some.inj read)
      have shorter := (List.dropWhile_sublist (l := a :: s) fun b => decide (b ≠ delimiter)).length_le
      rw [List.length_drop]
      rw [List.length_cons] at shorter ⊢
      omega

omit [DecidableEq α] in
theorem Whole.tail {a : α} {s : List α} (whole : Whole delimiter (a :: s)) :
    Whole delimiter s := by
  intro b last
  apply whole b
  rw [List.getLast?_cons, last]
  rfl

/-- What follows a text of whole lines starts a line of its own. -/
theorem lines_append {s : List α} (whole : Whole delimiter s) (rest : List α) :
    lines delimiter (s ++ rest) = lines delimiter s ++ lines delimiter rest := by
  induction s with
  | nil => rfl
  | cons a s ih =>
      have front := ih whole.tail
      by_cases ends : a = delimiter
      · subst ends
        rw [List.cons_append, lines_delimiter, lines_delimiter, front, List.cons_append]
      · have more : s ≠ [] := by
          rintro rfl
          exact ends (whole a rfl)
        have any : lines delimiter s ≠ [] := lines_ne_nil more
        obtain ⟨line, others, split⟩ := List.exists_cons_of_ne_nil any
        rw [List.cons_append, lines_cons ends split, List.cons_append]
        apply lines_cons ends
        rw [front, split, List.cons_append]

theorem not_mem_lines (s : List α) : ∀ line ∈ lines delimiter s, delimiter ∉ line := by
  induction s with
  | nil =>
      intro line member
      cases member
  | cons a s ih =>
      intro line member
      by_cases ends : a = delimiter
      · subst ends
        rw [lines_delimiter, List.mem_cons] at member
        rcases member with rfl | later
        · exact List.not_mem_nil
        · exact ih line later
      · cases split : lines delimiter s with
        | nil =>
            rw [lines, if_neg ends, split, List.mem_singleton] at member
            rw [member, List.mem_singleton]
            exact Ne.symm ends
        | cons first rest =>
            rw [lines_cons ends split, List.mem_cons] at member
            rw [split] at ih
            rcases member with rfl | later
            · rw [List.mem_cons, not_or]
              exact ⟨Ne.symm ends, ih first List.mem_cons_self⟩
            · exact ih line (List.mem_cons_of_mem _ later)

theorem lines_line {line : List α} (clean : delimiter ∉ line) :
    lines delimiter (line ++ [delimiter]) = [line] := by
  induction line with
  | nil => exact lines_delimiter []
  | cons a line ih =>
      rw [List.mem_cons, not_or] at clean
      exact lines_cons (Ne.symm clean.1) (ih clean.2)

omit [DecidableEq α] in
theorem whole_line (line : List α) : Whole delimiter (line ++ [delimiter]) := by
  intro a last
  rw [List.getLast?_append_of_ne_nil _ (by simp)] at last
  simpa using last.symm

omit [DecidableEq α] in
theorem whole_unlines (ls : List (List α)) : Whole delimiter (unlines delimiter ls) := by
  induction ls with
  | nil =>
      intro a last
      cases last
  | cons line ls ih =>
      intro a last
      unfold unlines at ih last
      rw [List.flatMap_cons, List.getLast?_append] at last
      rcases Option.or_eq_some_iff.mp last with later | ⟨_, here⟩
      · exact ih a later
      · exact whole_line line a here

/-- Written lines are read back. -/
theorem lines_unlines {ls : List (List α)} (clean : ∀ line ∈ ls, delimiter ∉ line) :
    lines delimiter (unlines delimiter ls) = ls := by
  unfold unlines
  induction ls with
  | nil => rfl
  | cons line ls ih =>
      rw [List.flatMap_cons, lines_append (whole_line line),
        lines_line (clean line List.mem_cons_self),
        ih fun other member => clean other (List.mem_cons_of_mem _ member)]
      rfl

end Lines
