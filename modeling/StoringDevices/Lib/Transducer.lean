import Mathlib.Logic.Relation

/-! # Machines that read words

A machine that changes its state and may emit an output at each letter.  Two
words are the same to it when no state tells them apart.  This is a congruence,
so a rule whose two sides are the same may be applied anywhere in a word, in
either direction and any number of times. -/
set_option autoImplicit false

universe u v w

namespace Transducer

structure Machine (S : Type u) (A : Type v) (O : Type w) where
  next : A → S → S
  emit : A → S → Option O

variable {S : Type u} {A : Type v} {O : Type w}

def Machine.run (M : Machine S A O) (word : List A) (s : S) : S :=
  word.foldl (fun s a => M.next a s) s

def Machine.outputs (M : Machine S A O) : List A → S → List O
  | [], _ => []
  | a :: word, s => (M.emit a s).toList ++ M.outputs word (M.next a s)

theorem run_append (M : Machine S A O) (word word' : List A) (s : S) :
    M.run (word ++ word') s = M.run word' (M.run word s) := List.foldl_append

theorem outputs_append (M : Machine S A O) (word' : List A) :
    ∀ (word : List A) (s : S),
      M.outputs (word ++ word') s = M.outputs word s ++ M.outputs word' (M.run word s) := by
  intro word
  induction word with
  | nil => intro s; rfl
  | cons a word ih =>
      intro s
      simp only [List.cons_append, Machine.outputs, ih, List.append_assoc]
      rfl

/-! ## Words that are the same -/

/-- From every state the words lead to the same state and emit the same. -/
structure Same (M : Machine S A O) (word word' : List A) : Prop where
  run : ∀ s, M.run word s = M.run word' s
  outputs : ∀ s, M.outputs word s = M.outputs word' s

variable {M : Machine S A O}

theorem Same.refl (word : List A) : Same M word word := ⟨fun _ => rfl, fun _ => rfl⟩

theorem Same.symm {word word' : List A} (same : Same M word word') : Same M word' word :=
  ⟨fun s => (same.run s).symm, fun s => (same.outputs s).symm⟩

theorem Same.trans {word word' word'' : List A} (first : Same M word word')
    (second : Same M word' word'') : Same M word word'' :=
  ⟨fun s => (first.run s).trans (second.run s), fun s => (first.outputs s).trans (second.outputs s)⟩

theorem Same.append {word word' rest rest' : List A} (first : Same M word word')
    (second : Same M rest rest') : Same M (word ++ rest) (word' ++ rest') := by
  constructor
  · intro s
    rw [run_append, run_append, first.run, second.run]
  · intro s
    rw [outputs_append, outputs_append, first.outputs, first.run, second.outputs]

/-! ## Rewriting -/

/-- A rule applied in one place of a word. -/
inductive Rewrites (rule : List A → List A → Prop) : List A → List A → Prop where
  | inside (before after : List A) {left right : List A} (applies : rule left right) :
      Rewrites rule (before ++ (left ++ after)) (before ++ (right ++ after))

theorem Same.of_rewriting {rule : List A → List A → Prop}
    (sound : ∀ left right, rule left right → Same M left right) {word word' : List A}
    (rewriting : Relation.EqvGen (Rewrites rule) word word') : Same M word word' := by
  induction rewriting with
  | rel word word' step =>
      cases step with
      | inside before after applies =>
          exact (Same.refl before).append ((sound _ _ applies).append (Same.refl after))
  | refl word => exact Same.refl word
  | symm word word' _ ih => exact ih.symm
  | trans word word' word'' _ _ first second => exact first.trans second

end Transducer
