import Mathlib.Data.List.Basic
import Mathlib.Data.Set.Card

/-! # Lists and values that may be missing

Facts about splits, folds, images and counts of lists that the library does not
have: a fold that reaches a property at one element and keeps it, `mapM` in
`Option` element by element, and the number of values a list without repetition
holds.  A value may be missing as `none`, or as one value that stands for unknown. -/
set_option autoImplicit false

universe u v w

namespace Lists

/-! ## Cutting in two -/

/-- A front without `a` ends before it. -/
theorem split_of_not_mem {α : Type u} {front rest early late : List α} {a : α}
    (split : early ++ a :: late = front ++ rest) (absent : a ∉ front) :
    ∃ more, early = front ++ more ∧ rest = more ++ a :: late := by
  rcases List.append_eq_append_iff.mp split with ⟨more, whole, tail⟩ | ⟨more, whole, tail⟩
  · cases more with
    | nil => exact ⟨[], by simpa using whole.symm, by simpa using tail.symm⟩
    | cons b more =>
        cases tail
        exact absurd (by simp [whole]) absent
  · exact ⟨more, whole, tail⟩

/-- An element of a list that grew at the end is the last one, or was there before. -/
theorem snoc_eq_split_iff {α : Type u} {values before after : List α} {last a : α} :
    values ++ [last] = before ++ a :: after ↔
      after = [] ∧ before = values ∧ a = last ∨
        ∃ rest, after = rest ++ [last] ∧ values = before ++ a :: rest := by
  cases after using List.reverseRecOn with
  | nil =>
      constructor
      · intro same
        obtain ⟨front, back⟩ := List.append_inj' same rfl
        cases back
        exact .inl ⟨rfl, front.symm, rfl⟩
      · rintro (⟨_, rfl, rfl⟩ | ⟨rest, empty, _⟩)
        · rfl
        · simp at empty
  | append_singleton rest b =>
      have regroup : before ++ a :: (rest ++ [b]) = (before ++ a :: rest) ++ [b] := by simp
      rw [regroup]
      constructor
      · intro same
        obtain ⟨front, back⟩ := List.append_inj' same rfl
        cases back
        exact .inr ⟨rest, rfl, front⟩
      · rintro (⟨empty, _⟩ | ⟨rest', same, front⟩)
        · simp at empty
        · obtain ⟨rests, lasts⟩ := List.append_inj' same rfl
          rw [front, rests, lasts]

/-! ## Folds -/

/-- What one element brings about, and all keep, holds after the fold. -/
theorem foldl_of_mem {α : Type u} {β : Type v} {p : β → Prop} {f : β → α → β} {values : List α}
    {a : α} (member : a ∈ values) (b : β) (reach : ∀ b, p (f b a))
    (keep : ∀ b, p b → ∀ a, p (f b a)) : p (values.foldl f b) := by
  obtain ⟨early, late, rfl⟩ := List.append_of_mem member
  rw [List.foldl_append, List.foldl_cons]
  apply List.foldlRecOn
  · exact reach _
  · intro b kept a _
    exact keep b kept a

/-! ## Images -/

theorem map_mapIdx {α : Type u} {β : Type v} {γ : Type w} (f : Nat → α → β) (g : β → γ)
    (values : List α) : (values.mapIdx f).map g = values.mapIdx fun i a => g (f i a) := by
  apply List.ext_getElem?
  intro i
  rw [List.getElem?_map, List.getElem?_mapIdx, List.getElem?_mapIdx, Option.map_map]
  rfl

section MapM
variable {α : Type u} {β γ : Type v}

theorem mapM_map_some (f : α → Option β) (g : β → γ) (values : List α) :
    (values.mapM fun a => (f a).map g) = (values.mapM f).map (List.map g) := by
  induction values with
  | nil => rfl
  | cons a values ih =>
      rw [List.mapM_cons, List.mapM_cons, ih]
      cases f a with
      | none => rfl
      | some b => cases values.mapM f <;> rfl

theorem mapM_isSome_iff {f : α → Option β} (values : List α) :
    (values.mapM f).isSome = true ↔ ∀ a ∈ values, (f a).isSome = true := by
  induction values with
  | nil => simp
  | cons a values ih =>
      rw [List.mapM_cons, List.forall_mem_cons, ← ih]
      cases f a with
      | none => simp
      | some b => cases values.mapM f <;> simp

theorem forall_mem_mapM {f : α → Option β} {p : β → Prop} {values : List α} :
    ∀ {images : List β}, values.mapM f = some images →
      ((∀ b ∈ images, p b) ↔ ∀ a ∈ values, ∃ b, f a = some b ∧ p b) := by
  induction values with
  | nil =>
      intro images done
      cases done
      simp
  | cons a values ih =>
      intro images done
      rw [List.mapM_cons] at done
      obtain ⟨b, first, rest⟩ := Option.bind_eq_some_iff.mp done
      obtain ⟨later, others, whole⟩ := Option.bind_eq_some_iff.mp rest
      cases whole
      rw [List.forall_mem_cons, List.forall_mem_cons, ih others, first]
      simp

theorem exists_of_mapM {f : α → Option β} {values : List α} {images : List β}
    (done : values.mapM f = some images) {a : α} (member : a ∈ values) : ∃ b, f a = some b := by
  obtain ⟨b, image, _⟩ := (forall_mem_mapM (p := fun _ => True) done).mp
    (fun _ _ => trivial) a member
  exact ⟨b, image⟩

end MapM

/-! ## Counting -/

theorem ncard_of_members {α : Type u} {values : List α} (distinct : values.Nodup) {p : α → Prop}
    (members : ∀ a, p a ↔ a ∈ values) : {a | p a}.ncard = values.length := by
  classical
  have same : {a | p a} = (values.toFinset : Set α) := by
    ext a
    simp [members a]
  rw [same, Set.ncard_coe_finset, List.toFinset_card_of_nodup distinct]

/-! ## Missing values -/

theorem getD_eq_self_iff {α : Type u} {o : Option α} {a : α} : o.getD a = a ↔ ∀ v ∈ o, a = v := by
  cases o with
  | none => simp
  | some v => simp [eq_comm]

theorem getD_ne_iff {α : Type u} {o : Option α} {a : α} : o.getD a ≠ a ↔ ∃ v ∈ o, v ≠ a := by
  cases o with
  | none => simp
  | some v => simp

theorem known_trans {α : Type u} {unknown a b c : α} (early : a ≠ unknown → b = a)
    (late : b ≠ unknown → c = b) : a ≠ unknown → c = a := by
  intro known
  have same := early known
  rw [← same]
  exact late (same ▸ known)

theorem ite_known {α : Type u} [DecidableEq α] {unknown a b : α} :
    a = (if a = unknown then b else a) ↔ (a = unknown → b = unknown) := by
  by_cases missing : a = unknown
  · rw [if_pos missing, missing]
    exact ⟨fun same _ => same.symm, fun same => (same rfl).symm⟩
  · rw [if_neg missing]
    exact ⟨fun _ here => absurd here missing, fun _ => rfl⟩

end Lists
