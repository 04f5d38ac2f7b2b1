import Mathlib.Data.List.Basic

/-! # Well-nested markup

A text in which tags stand between an opening and a closing letter.  A tag opens
an element, closes the one opened last, or does neither; a text is nested when
each element it opens is closed in it, in the order that makes them nest.
Nestedness looks at a text alone: inside any open elements a nested text leaves
them as they were, so texts may be put together from nested parts. -/
set_option autoImplicit false

universe u v w

namespace Nesting

inductive Tag (N : Type v) where
  | opens (name : N)
  | closes (name : N)
  | neither

structure Grammar (α : Type u) (N : Type v) where
  opener : α
  closer : α
  /-- What the letters between the opening and the closing letter do. -/
  tag : List α → Tag N

/-- The open elements, the innermost first, and the letters of the tag that is
being read. -/
structure Reader (α : Type u) (N : Type v) where
  stack : List N
  tag : Option (List α)
  deriving DecidableEq

variable {α : Type u} {N : Type v} [DecidableEq α] [DecidableEq N]

/-- The open elements after a tag; `none` when it closes one that is not innermost. -/
def apply : Tag N → List N → Option (List N)
  | .opens name, stack => some (name :: stack)
  | .closes name, innermost :: stack => if innermost = name then some stack else none
  | .closes _, [] => none
  | .neither, stack => some stack

def step (grammar : Grammar α N) (reader : Reader α N) (a : α) : Option (Reader α N) :=
  match reader.tag with
  | none => some { reader with tag := if a = grammar.opener then some [] else none }
  | some letters =>
      if a = grammar.opener then none
      else if a = grammar.closer then
        (apply (grammar.tag letters) reader.stack).map fun stack => ⟨stack, none⟩
      else some { reader with tag := some (letters ++ [a]) }

def run (grammar : Grammar α N) (reader : Reader α N) (s : List α) : Option (Reader α N) :=
  s.foldlM (step grammar) reader

theorem run_append (grammar : Grammar α N) (reader : Reader α N) (s rest : List α) :
    run grammar reader (s ++ rest) =
      (run grammar reader s).bind fun next => run grammar next rest := by
  unfold run
  rw [List.foldlM_append]
  rfl

/-! ## Open elements underneath -/

theorem apply_frame {tag : Tag N} {stack after : List N} (applied : apply tag stack = some after)
    (base : List N) : apply tag (stack ++ base) = some (after ++ base) := by
  cases tag with
  | opens name =>
      cases applied
      rfl
  | neither =>
      cases applied
      rfl
  | closes name =>
      cases stack with
      | nil => cases applied
      | cons innermost stack =>
          unfold apply at applied ⊢
          rw [List.cons_append]
          simp only at applied ⊢
          split at applied
          · next same =>
              cases applied
              rw [if_pos same]
          · cases applied

/-- A step works on the elements it needs, whatever is open underneath. -/
theorem step_frame {grammar : Grammar α N} {reader next : Reader α N} {a : α}
    (stepped : step grammar reader a = some next) (base : List N) :
    step grammar { reader with stack := reader.stack ++ base } a =
      some { next with stack := next.stack ++ base } := by
  unfold step at stepped ⊢
  cases inside : reader.tag with
  | none =>
      simp only [inside] at stepped ⊢
      cases stepped
      rfl
  | some letters =>
      simp only [inside] at stepped ⊢
      split at stepped
      · cases stepped
      · next ordinary =>
          rw [if_neg ordinary]
          split at stepped
          · next closing =>
              obtain ⟨stack, applied, rfl⟩ := Option.map_eq_some_iff.mp stepped
              rw [if_pos closing, apply_frame applied base]
              rfl
          · next letter =>
              cases stepped
              rw [if_neg letter]

theorem run_frame {grammar : Grammar α N} (base : List N) :
    ∀ (s : List α) (reader next : Reader α N), run grammar reader s = some next →
      run grammar { reader with stack := reader.stack ++ base } s =
        some { next with stack := next.stack ++ base } := by
  intro s
  induction s with
  | nil =>
      intro reader next ran
      cases ran
      rfl
  | cons a s ih =>
      intro reader next ran
      obtain ⟨middle, stepped, rest⟩ := Option.bind_eq_some_iff.mp ran
      have framed := ih middle next rest
      unfold run at framed ⊢
      rw [List.foldlM_cons, step_frame stepped base]
      exact framed

/-! ## Texts between tags -/

/-- The text closes the elements before it and opens those after it. -/
def Moves (grammar : Grammar α N) (s : List α) (before after : List N) : Prop :=
  run grammar ⟨before, none⟩ s = some ⟨after, none⟩

instance (grammar : Grammar α N) (s : List α) (before after : List N) :
    Decidable (Moves grammar s before after) :=
  inferInstanceAs (Decidable (_ = _))

/-- The elements the text opens are closed in it. -/
def Nested (grammar : Grammar α N) (s : List α) : Prop := Moves grammar s [] []

instance (grammar : Grammar α N) (s : List α) : Decidable (Nested grammar s) :=
  inferInstanceAs (Decidable (_ = _))

variable {grammar : Grammar α N}

theorem Moves.append {s rest : List α} {before middle after : List N}
    (first : Moves grammar s before middle) (second : Moves grammar rest middle after) :
    Moves grammar (s ++ rest) before after := by
  unfold Moves at first second ⊢
  rw [run_append, first]
  exact second

theorem Moves.frame {s : List α} {before after : List N} (moves : Moves grammar s before after)
    (base : List N) : Moves grammar s (before ++ base) (after ++ base) :=
  run_frame base s _ _ moves

theorem Nested.moves {s : List α} (nested : Nested grammar s) (base : List N) :
    Moves grammar s base base := by
  simpa using Moves.frame nested base

theorem nested_nil : Nested grammar [] := rfl

theorem Nested.append {s rest : List α} (first : Nested grammar s) (second : Nested grammar rest) :
    Nested grammar (s ++ rest) := Moves.append first second

theorem nested_flatten {parts : List (List α)} (each : ∀ s ∈ parts, Nested grammar s) :
    Nested grammar parts.flatten := by
  induction parts with
  | nil => exact nested_nil
  | cons s parts ih =>
      rw [List.flatten_cons]
      exact (each s List.mem_cons_self).append
        (ih fun other member => each other (List.mem_cons_of_mem _ member))

theorem nested_flatMap {A : Type w} {f : A → List α} {items : List A}
    (each : ∀ item ∈ items, Nested grammar (f item)) : Nested grammar (items.flatMap f) := by
  rw [List.flatMap_def]
  apply nested_flatten
  intro s member
  obtain ⟨item, inside, rfl⟩ := List.mem_map.mp member
  exact each item inside

/-- A text without a tag is nested. -/
theorem nested_of_not_mem {s : List α} (absent : grammar.opener ∉ s) : Nested grammar s := by
  induction s with
  | nil => exact nested_nil
  | cons a s ih =>
      rw [List.mem_cons, not_or] at absent
      have here : step grammar ⟨[], none⟩ a = some ⟨[], none⟩ := by
        unfold step
        simp only
        rw [if_neg (Ne.symm absent.1)]
      have rest := ih absent.2
      unfold Nested Moves run at rest ⊢
      rw [List.foldlM_cons, here]
      exact rest

/-- A nested text in an element. -/
theorem Nested.between {opening s closing : List α} {names : List N}
    (opens : Moves grammar opening [] names) (nested : Nested grammar s)
    (closes : Moves grammar closing names []) : Nested grammar (opening ++ s ++ closing) :=
  (opens.append (nested.moves names)).append closes

end Nesting
