import Mathlib.Data.List.Basic
import Mathlib.Data.List.Infix

/-! # Regular expressions and leftmost backtracking search

`Matches r w` is the language of `r`.  `ends r s` lists what is left of `s`
after each match of `r` at its front, in the order a backtracking matcher tries
them: the left alternative first, and one more round of a star before leaving
it.  `search r s` takes the first of these at the first position that has one. -/
set_option autoImplicit false

universe u

inductive Regex (α : Type u) where
  | empty : Regex α
  | one (accepts : α → Bool) : Regex α
  | seq (first second : Regex α) : Regex α
  | alt (first second : Regex α) : Regex α
  | star (body : Regex α) : Regex α

namespace Regex

variable {α : Type u}

inductive Matches : Regex α → List α → Prop where
  | empty : Matches .empty []
  | one {accepts : α → Bool} {a : α} (accepted : accepts a = true) : Matches (.one accepts) [a]
  | seq {r t : Regex α} {v w : List α} (left : Matches r v) (right : Matches t w) :
      Matches (.seq r t) (v ++ w)
  | altLeft {r t : Regex α} {w : List α} (left : Matches r w) : Matches (.alt r t) w
  | altRight {r t : Regex α} {w : List α} (right : Matches t w) : Matches (.alt r t) w
  | starNil {r : Regex α} : Matches (.star r) []
  | starCons {r : Regex α} {v w : List α} (head : Matches r v) (tail : Matches (.star r) w) :
      Matches (.star r) (v ++ w)

/-- Greedy iteration of a matcher.  A round that consumes nothing is not
repeated, so the length of the input is enough fuel. -/
def starEnds (step : List α → List (List α)) : Nat → List α → List (List α)
  | 0, s => [s]
  | fuel + 1, s =>
      ((step s).filter fun t => t.length < s.length).flatMap (starEnds step fuel) ++ [s]

def ends : Regex α → List α → List (List α)
  | .empty, s => [s]
  | .one _, [] => []
  | .one accepts, a :: s => if accepts a then [s] else []
  | .seq r t, s => (ends r s).flatMap (ends t)
  | .alt r t, s => ends r s ++ ends t s
  | .star r, s => starEnds (ends r) s.length s

/-! ## The matcher finds exactly the words of the language -/

theorem starEnds_sound {r : Regex α} {step : List α → List (List α)}
    (stepSound : ∀ s t, t ∈ step s → ∃ w, s = w ++ t ∧ Matches r w) :
    ∀ (fuel : Nat) (s t : List α), t ∈ starEnds step fuel s →
      ∃ w, s = w ++ t ∧ Matches (.star r) w := by
  intro fuel
  induction fuel with
  | zero =>
      intro s t member
      have same : t = s := List.mem_singleton.mp member
      exact ⟨[], by simp [same], .starNil⟩
  | succ fuel ih =>
      intro s t member
      rcases List.mem_append.mp member with member | member
      · obtain ⟨middle, middleMember, tailMember⟩ := List.mem_flatMap.mp member
        obtain ⟨v, split, head⟩ := stepSound s middle (List.mem_filter.mp middleMember).1
        obtain ⟨w, rest, tail⟩ := ih middle t tailMember
        exact ⟨v ++ w, by rw [split, rest, List.append_assoc], .starCons head tail⟩
      · have same : t = s := List.mem_singleton.mp member
        exact ⟨[], by simp [same], .starNil⟩

theorem ends_sound (r : Regex α) :
    ∀ s t : List α, t ∈ ends r s → ∃ w, s = w ++ t ∧ Matches r w := by
  induction r with
  | empty =>
      intro s t member
      have same : t = s := List.mem_singleton.mp member
      exact ⟨[], by simp [same], .empty⟩
  | one accepts =>
      intro s t member
      cases s with
      | nil => simp [ends] at member
      | cons a s =>
          by_cases accepted : accepts a = true
          · have same : t = s := by simpa [ends, accepted] using member
            exact ⟨[a], by simp [same], .one accepted⟩
          · simp [ends, accepted] at member
  | seq r t ihr iht =>
      intro s rest member
      obtain ⟨middle, middleMember, restMember⟩ := List.mem_flatMap.mp member
      obtain ⟨v, split, left⟩ := ihr s middle middleMember
      obtain ⟨w, tail, right⟩ := iht middle rest restMember
      exact ⟨v ++ w, by rw [split, tail, List.append_assoc], .seq left right⟩
  | alt r t ihr iht =>
      intro s rest member
      rcases List.mem_append.mp member with member | member
      · obtain ⟨w, split, left⟩ := ihr s rest member
        exact ⟨w, split, .altLeft left⟩
      · obtain ⟨w, split, right⟩ := iht s rest member
        exact ⟨w, split, .altRight right⟩
  | star r ih =>
      intro s t member
      exact starEnds_sound ih s.length s t member

/-- A nonempty iteration starts with a nonempty round. -/
theorem Matches.star_uncons {r : Regex α} {w : List α} (run : Matches (.star r) w) (ne : w ≠ []) :
    ∃ u v, w = u ++ v ∧ u ≠ [] ∧ Matches r u ∧ Matches (.star r) v := by
  generalize shape : Regex.star r = body at run
  induction run with
  | starNil => exact absurd rfl ne
  | @starCons r' v w head tail _ ih =>
      cases shape
      by_cases hv : v = []
      · subst hv
        exact ih ne rfl
      · exact ⟨v, w, rfl, hv, head, tail⟩
  | _ => cases shape

theorem starEnds_complete {r : Regex α} {step : List α → List (List α)}
    (stepComplete : ∀ w t, Matches r w → t ∈ step (w ++ t)) :
    ∀ (fuel : Nat) (w t : List α), w.length ≤ fuel → Matches (.star r) w →
      t ∈ starEnds step fuel (w ++ t) := by
  intro fuel
  induction fuel with
  | zero =>
      intro w t enough _
      have hw : w = [] := List.length_eq_zero_iff.mp (Nat.le_zero.mp enough)
      simp [hw, starEnds]
  | succ fuel ih =>
      intro w t enough run
      by_cases hw : w = []
      · simp [hw, starEnds]
      · obtain ⟨u, v, split, hu, head, tail⟩ := run.star_uncons hw
        subst split
        have upos : 0 < u.length := List.length_pos_iff.mpr hu
        rw [List.length_append] at enough
        apply List.mem_append_left
        apply List.mem_flatMap.mpr
        refine ⟨v ++ t, List.mem_filter.mpr ⟨?_, ?_⟩, ih v t (by omega) tail⟩
        · rw [List.append_assoc]
          exact stepComplete u (v ++ t) head
        · simp only [List.length_append, decide_eq_true_eq]
          omega

theorem ends_complete (r : Regex α) :
    ∀ w t : List α, Matches r w → t ∈ ends r (w ++ t) := by
  induction r with
  | empty =>
      intro w t run
      cases run
      simp [ends]
  | one accepts =>
      intro w t run
      cases run with
      | one accepted => simp [ends, accepted]
  | seq r s ihr ihs =>
      intro w t run
      cases run with
      | @seq _ _ v w left right =>
          apply List.mem_flatMap.mpr
          refine ⟨w ++ t, ?_, ihs w t right⟩
          rw [List.append_assoc]
          exact ihr v (w ++ t) left
  | alt r s ihr ihs =>
      intro w t run
      cases run with
      | altLeft left => exact List.mem_append_left _ (ihr w t left)
      | altRight right => exact List.mem_append_right _ (ihs w t right)
  | star r ih =>
      intro w t run
      exact starEnds_complete ih (w ++ t).length w t (by simp) run

/-! ## Searching -/

structure Found (α : Type u) where
  before : List α
  text : List α
  after : List α

def Found.shift (a : α) (found : Found α) : Found α :=
  { found with before := a :: found.before }

@[simp] theorem Found.shift_before (a : α) (found : Found α) :
    (found.shift a).before = a :: found.before := rfl
@[simp] theorem Found.shift_text (a : α) (found : Found α) : (found.shift a).text = found.text := rfl
@[simp] theorem Found.shift_after (a : α) (found : Found α) : (found.shift a).after = found.after := rfl

def matchHere (r : Regex α) (s : List α) : Option (Found α) :=
  (ends r s).head?.map fun t => ⟨[], s.take (s.length - t.length), t⟩

def search (r : Regex α) : List α → Option (Found α)
  | [] => matchHere r []
  | a :: s =>
      match matchHere r (a :: s) with
      | some found => some found
      | none => (search r s).map (Found.shift a)

/-- Some factor of `s` is a word of `r`. -/
def Occurs (r : Regex α) (s : List α) : Prop := ∃ a w b, s = a ++ w ++ b ∧ Matches r w

theorem matchHere_sound {r : Regex α} {s : List α} {found : Found α}
    (here : matchHere r s = some found) :
    found.before = [] ∧ s = found.text ++ found.after ∧ Matches r found.text := by
  obtain ⟨t, first, rfl⟩ := Option.map_eq_some_iff.mp here
  obtain ⟨w, split, run⟩ := ends_sound r s t (List.mem_of_mem_head? first)
  have text : s.take (s.length - t.length) = w := by
    rw [split, List.length_append, Nat.add_sub_cancel, List.take_left]
  refine ⟨rfl, ?_, ?_⟩
  · simpa only [text] using split
  · simpa only [text] using run

theorem matchHere_none {r : Regex α} {s : List α} (here : matchHere r s = none) :
    ∀ w b, s = w ++ b → ¬ Matches r w := by
  intro w b split run
  have member := ends_complete r w b run
  rw [← split] at member
  have nil : ends r s = [] := List.head?_eq_none_iff.mp (Option.map_eq_none_iff.mp here)
  simp [nil] at member

theorem search_sound (r : Regex α) :
    ∀ (s : List α) (found : Found α), search r s = some found →
      s = found.before ++ found.text ++ found.after ∧ Matches r found.text := by
  intro s
  induction s with
  | nil =>
      intro found success
      obtain ⟨before, split, run⟩ := matchHere_sound success
      exact ⟨by rw [before]; exact split, run⟩
  | cons a s ih =>
      intro found success
      simp only [search] at success
      cases here : matchHere r (a :: s) with
      | some first =>
          rw [here] at success
          cases success
          obtain ⟨before, split, run⟩ := matchHere_sound here
          exact ⟨by rw [before]; exact split, run⟩
      | none =>
          rw [here] at success
          obtain ⟨later, rest, rfl⟩ := Option.map_eq_some_iff.mp success
          obtain ⟨split, run⟩ := ih later rest
          exact ⟨by simpa using split, run⟩

theorem search_none (r : Regex α) : ∀ s : List α, search r s = none → ¬ Occurs r s := by
  intro s
  induction s with
  | nil =>
      rintro failure ⟨a, w, b, split, run⟩
      obtain ⟨ha, hb⟩ := List.append_eq_nil_iff.mp split.symm
      obtain ⟨rfl, rfl⟩ := List.append_eq_nil_iff.mp ha
      exact matchHere_none failure [] b (by rw [hb]; rfl) run
  | cons c s ih =>
      rintro failure ⟨a, w, b, split, run⟩
      simp only [search] at failure
      cases here : matchHere r (c :: s) with
      | some first => simp [here] at failure
      | none =>
          rw [here] at failure
          have rest : search r s = none := Option.map_eq_none_iff.mp failure
          cases a with
          | nil => exact matchHere_none here w b split run
          | cons d a =>
              simp only [List.cons_append, List.cons.injEq] at split
              exact ih rest ⟨a, w, b, split.2, run⟩

theorem search_isSome_iff (r : Regex α) (s : List α) : (search r s).isSome = true ↔ Occurs r s := by
  constructor
  · intro h
    obtain ⟨found, success⟩ := Option.isSome_iff_exists.mp h
    obtain ⟨split, run⟩ := search_sound r s found success
    exact ⟨found.before, found.text, found.after, split, run⟩
  · intro h
    cases failure : search r s with
    | some found => rfl
    | none => exact absurd h (search_none r s failure)

/-- No word of `r` begins before the match. -/
theorem search_leftmost {r : Regex α} :
    ∀ {s : List α} {found : Found α}, search r s = some found → ∀ a b w, found.before = a ++ b →
      b ≠ [] → w <+: b ++ (found.text ++ found.after) → ¬ Matches r w := by
  intro s
  induction s with
  | nil =>
      intro found success a b w split ne
      rw [(matchHere_sound success).1] at split
      exact absurd (List.append_eq_nil_iff.mp split.symm).2 ne
  | cons c s ih =>
      intro found success a b w split ne begins
      simp only [search] at success
      cases here : matchHere r (c :: s) with
      | some first =>
          rw [here] at success
          cases success
          rw [(matchHere_sound here).1] at split
          exact absurd (List.append_eq_nil_iff.mp split.symm).2 ne
      | none =>
          rw [here] at success
          obtain ⟨later, rest, rfl⟩ := Option.map_eq_some_iff.mp success
          obtain ⟨whole, _⟩ := search_sound r s later rest
          cases a with
          | nil =>
              obtain ⟨more, tail⟩ := begins
              apply matchHere_none here w more
              rw [tail, ← List.nil_append b, ← split, whole]
              simp
          | cons d a =>
              simp only [Found.shift_before, List.cons_append, List.cons.injEq] at split
              exact ih rest a b w split.2 ne begins

/-- A factor that no word of `r` starts in is skipped. -/
theorem search_skip (r : Regex α) (s : List α) :
    ∀ front : List α,
      (∀ a b w rest, front = a ++ b → b ≠ [] → b ++ s = w ++ rest → ¬ Matches r w) →
      search r (front ++ s) = (search r s).map fun found => { found with before := front ++ found.before } := by
  intro front
  induction front with
  | nil => intro _; simp
  | cons c front ih =>
      intro dead
      have here : matchHere r (c :: (front ++ s)) = none := by
        cases h : matchHere r (c :: (front ++ s)) with
        | none => rfl
        | some found =>
            obtain ⟨_, split, run⟩ := matchHere_sound h
            exact absurd run (dead [] (c :: front) found.text found.after rfl (by simp) split)
      have rest := ih fun a b w rest split ne tail =>
        dead (c :: a) b w rest (by rw [split]; rfl) ne tail
      simp only [List.cons_append, search, here, rest, Option.map_map]
      rfl

/-- A letter that is in no word of `r` cuts the search in two. -/
theorem search_past {r : Regex α} {c : α} {front : List α} (barred : ∀ w, Matches r w → c ∉ w)
    (absent : ¬ Occurs r front) (s : List α) :
    search r (front ++ c :: s) =
      (search r s).map fun found => { found with before := front ++ c :: found.before } := by
  have skipped := search_skip r s (front ++ [c]) (by
    intro a b w rest split ne tail run
    obtain ⟨b, last, rfl⟩ := List.eq_nil_or_concat' b |>.resolve_left ne
    rw [← List.append_assoc] at split
    obtain ⟨rfl, same⟩ := List.append_inj' split rfl
    cases same
    rw [List.append_assoc] at tail
    apply absent
    rcases List.append_eq_append_iff.mp tail with ⟨more, rfl, rest'⟩ | ⟨more, rfl, _⟩
    · cases more with
      | nil => exact ⟨a, b, [], by simp, by simpa using run⟩
      | cons d more =>
          cases rest'
          exact absurd (by simp) (barred _ run)
    · exact ⟨a, w, more, by simp, run⟩)
  simpa using skipped

/-! ## Literals -/

def literal [DecidableEq α] : List α → Regex α
  | [] => .empty
  | a :: word => .seq (.one fun b => b = a) (literal word)

theorem matches_literal_iff [DecidableEq α] (word w : List α) :
    Matches (literal word) w ↔ w = word := by
  induction word generalizing w with
  | nil =>
      constructor
      · intro run; cases run; rfl
      · rintro rfl; exact .empty
  | cons a word ih =>
      constructor
      · intro run
        cases run with
        | seq left right =>
            cases left with
            | one accepted =>
                rw [(ih _).mp right, of_decide_eq_true accepted]
                rfl
      · rintro rfl
        exact .seq (v := [a]) (.one (by simp)) ((ih word).mpr rfl)

theorem matches_one_iff (accepts : α → Bool) (w : List α) :
    Matches (.one accepts) w ↔ ∃ a, accepts a = true ∧ w = [a] := by
  constructor
  · intro run
    cases run with
    | one accepted => exact ⟨_, accepted, rfl⟩
  · intro h
    obtain ⟨a, accepted, rfl⟩ := h
    exact .one accepted

theorem matches_seq_iff (r t : Regex α) (s : List α) :
    Matches (.seq r t) s ↔ ∃ v w, s = v ++ w ∧ Matches r v ∧ Matches t w := by
  constructor
  · intro run
    cases run with
    | seq left right => exact ⟨_, _, rfl, left, right⟩
  · intro h
    obtain ⟨v, w, rfl, left, right⟩ := h
    exact .seq left right

/-! ## A label and what follows it -/

/-- A star over single symbols is greedy. -/
theorem starEnds_one_head (accepts : α → Bool) :
    ∀ (fuel : Nat) (s : List α), s.length ≤ fuel →
      (starEnds (ends (.one accepts)) fuel s).head? = some (s.dropWhile accepts) := by
  intro fuel
  induction fuel with
  | zero =>
      intro s enough
      rw [List.length_eq_zero_iff.mp (Nat.le_zero.mp enough)]
      rfl
  | succ fuel ih =>
      intro s enough
      cases s with
      | nil => rfl
      | cons a s =>
          have inner := ih s (Nat.le_of_succ_le_succ enough)
          by_cases accepted : accepts a = true
          · simp [starEnds, ends, accepted, inner]
          · simp [starEnds, ends, accepted]

theorem ends_literal_append [DecidableEq α] (word s : List α) :
    ends (literal word) (word ++ s) = [s] := by
  induction word with
  | nil => rfl
  | cons a word ih => simp [literal, ends, ih]

/-- A label, and as many accepted symbols after it as there are. -/
def labelled [DecidableEq α] (label : List α) (accepts : α → Bool) : Regex α :=
  .seq (literal label) (.star (.one accepts))

theorem matches_labelled [DecidableEq α] {label w : List α} {accepts : α → Bool}
    (run : Matches (labelled label accepts) w) : label <+: w := by
  obtain ⟨v, rest, rfl, left, _⟩ := (matches_seq_iff _ _ _).mp run
  rw [(matches_literal_iff _ _).mp left]
  exact List.prefix_append label rest

theorem matchHere_labelled [DecidableEq α] (label s : List α) (accepts : α → Bool) :
    matchHere (labelled label accepts) (label ++ s) =
      some ⟨[], label ++ s.takeWhile accepts, s.dropWhile accepts⟩ := by
  have first : (ends (labelled label accepts) (label ++ s)).head? = some (s.dropWhile accepts) := by
    have greedy := starEnds_one_head accepts s.length s (Nat.le_refl _)
    simpa [labelled, ends, ends_literal_append] using greedy
  have parts : s.length = (s.takeWhile accepts).length + (s.dropWhile accepts).length := by
    rw [← List.length_append, List.takeWhile_append_dropWhile]
  have width : (label ++ s).length - (s.dropWhile accepts).length =
      (label ++ s.takeWhile accepts).length := by
    rw [List.length_append, List.length_append]
    omega
  have text : (label ++ s).take (label ++ s.takeWhile accepts).length =
      label ++ s.takeWhile accepts := by
    have split : label ++ s = (label ++ s.takeWhile accepts) ++ s.dropWhile accepts := by
      rw [List.append_assoc, List.takeWhile_append_dropWhile]
    rw [split, List.take_left]
  unfold matchHere
  rw [first, Option.map_some, width, text]

/-! ### Fronts in which a label does not begin -/

/-- `label` begins nowhere in `front` when `more` follows it. -/
def Dead (label front more : List α) : Prop :=
  ∀ a b, front = a ++ b → b ≠ [] → ¬ label <+: b ++ more

theorem Dead.append {label front rest more : List α} (first : Dead label front (rest ++ more))
    (second : Dead label rest more) : Dead label (front ++ rest) more := by
  intro a b split ne begins
  rcases List.append_eq_append_iff.mp split with ⟨c, _, inRest⟩ | ⟨c, inFront, tail⟩
  · exact second c b inRest ne begins
  · rw [tail, List.append_assoc] at begins
    by_cases whole : c = []
    · rw [whole, List.nil_append] at begins tail
      exact second [] rest rfl (by rw [← tail]; exact ne) begins
    · exact first a c inFront whole begins

theorem dead_of_not_mem {label front : List α} {c : α} (absent : c ∉ front) (more : List α) :
    Dead (c :: label) front more := by
  intro a b split ne begins
  obtain ⟨d, b, rfl⟩ := List.exists_cons_of_ne_nil ne
  obtain ⟨rest, tail⟩ := begins
  rw [List.cons_append, List.cons_append, List.cons.injEq] at tail
  apply absent
  rw [split, tail.1]
  exact List.mem_append_right a List.mem_cons_self

/-- No suffix of `front` agrees with `label` as far as both go. -/
theorem dead_of_apart [DecidableEq α] {label front : List α}
    (apart : ∀ n < front.length, ¬ label <+: front.drop n ∧ ¬ front.drop n <+: label)
    (more : List α) : Dead label front more := by
  intro a b split ne begins
  have inside : a.length < front.length := by
    have pos := List.length_pos_iff.mpr ne
    rw [split, List.length_append]
    omega
  have here := apart a.length inside
  rw [split, List.drop_left] at here
  rcases Nat.le_total label.length b.length with short | long
  · exact here.1 (List.prefix_of_prefix_length_le begins (List.prefix_append _ _) short)
  · exact here.2 (List.prefix_of_prefix_length_le (List.prefix_append _ _) begins long)

/-- `front` does not hold the label, and no part of the label left over at its
end goes on in `more`. -/
theorem dead_of_not_infix {label front more : List α} (absent : ¬ label <:+: front)
    (split : ∀ a b, label = a ++ b → a ≠ [] → b ≠ [] → ¬ b <+: more) : Dead label front more := by
  intro a b inFront ne begins
  rcases Nat.le_total label.length b.length with short | long
  · have inside := List.prefix_of_prefix_length_le begins (List.prefix_append _ _) short
    apply absent
    rw [inFront]
    exact inside.isInfix.trans (List.suffix_append a b).isInfix
  · obtain ⟨rest, shape⟩ := List.prefix_of_prefix_length_le (List.prefix_append b more) begins long
    by_cases full : rest = []
    · rw [full, List.append_nil] at shape
      apply absent
      rw [inFront, ← shape]
      exact (List.suffix_append a b).isInfix
    · apply split b rest shape.symm ne full
      rw [← shape] at begins
      exact (List.prefix_append_right_inj b).mp begins

/-- The first label is the one after a front in which none begins. -/
theorem search_labelled [DecidableEq α] {label front : List α} (s : List α)
    (dead : Dead label front (label ++ s)) (accepts : α → Bool) :
    search (labelled label accepts) (front ++ (label ++ s)) =
      some ⟨front, label ++ s.takeWhile accepts, s.dropWhile accepts⟩ := by
  have here : search (labelled label accepts) (label ++ s) =
      some ⟨[], label ++ s.takeWhile accepts, s.dropWhile accepts⟩ := by
    have first := matchHere_labelled label s accepts
    cases shape : label ++ s with
    | nil =>
        rw [shape] at first
        exact first
    | cons a rest =>
        rw [shape] at first
        simp only [search, first]
  rw [search_skip, here, Option.map_some, List.append_nil]
  intro a b w rest split ne tail run
  apply dead a b split ne
  obtain ⟨more, rfl⟩ := matches_labelled run
  rw [tail, List.append_assoc]
  exact List.prefix_append label _

/-- What is found begins with the first label, and takes all that is accepted. -/
theorem search_labelled_some [DecidableEq α] {label s : List α} {accepts : α → Bool}
    {found : Found α} (success : search (labelled label accepts) s = some found) :
    ∃ rest, s = found.before ++ (label ++ rest) ∧ Dead label found.before (label ++ rest) ∧
      found.text = label ++ rest.takeWhile accepts := by
  obtain ⟨whole, run⟩ := search_sound _ s found success
  obtain ⟨more, text⟩ := matches_labelled run
  have tail : label ++ (more ++ found.after) = found.text ++ found.after := by
    rw [← text, List.append_assoc]
  have split : s = found.before ++ (label ++ (more ++ found.after)) := by
    rw [tail, ← List.append_assoc]
    exact whole
  have dead : Dead label found.before (label ++ (more ++ found.after)) := by
    intro a b front ne begins
    rw [tail] at begins
    have bare : Matches (labelled label accepts) label :=
      (matches_seq_iff _ _ _).mpr ⟨label, [], (List.append_nil label).symm,
        (matches_literal_iff label label).mpr rfl, .starNil⟩
    exact search_leftmost success a b label front ne begins bare
  refine ⟨more ++ found.after, split, dead, ?_⟩
  have again := search_labelled (more ++ found.after) dead accepts
  rw [← split, success, Option.some.injEq] at again
  exact congrArg Found.text again

theorem matches_alt_iff (r t : Regex α) (w : List α) :
    Matches (.alt r t) w ↔ Matches r w ∨ Matches t w := by
  constructor
  · intro run
    cases run with
    | altLeft left => exact .inl left
    | altRight right => exact .inr right
  · intro h
    rcases h with left | right
    · exact .altLeft left
    · exact .altRight right

/-! ## A star of single symbols, and a match at the front -/

theorem matches_star_one_iff (accepts : α → Bool) (w : List α) :
    Matches (.star (.one accepts)) w ↔ ∀ a ∈ w, accepts a = true := by
  constructor
  · intro run
    generalize shape : Regex.star (.one accepts) = body at run
    induction run with
    | starNil => simp
    | starCons head tail _ ih =>
        cases shape
        obtain ⟨a, accepted, rfl⟩ := (matches_one_iff accepts _).mp head
        intro b member
        rcases List.mem_cons.mp member with rfl | later
        · exact accepted
        · exact ih rfl b later
    | _ => cases shape
  · intro all
    induction w with
    | nil => exact .starNil
    | cons a w ih =>
        have head : Matches (.one accepts) [a] := .one (all a List.mem_cons_self)
        exact .starCons head (ih fun b member => all b (List.mem_cons_of_mem _ member))

/-- A prefix that is a word of `r` makes the search stop at the front. -/
theorem search_of_prefix {r : Regex α} {s : List α} (begins : ∃ w, w <+: s ∧ Matches r w) :
    ∃ found, search r s = some found ∧ found.text <+: s ∧ Matches r found.text := by
  obtain ⟨w, ⟨b, split⟩, run⟩ := begins
  cases here : matchHere r s with
  | none => exact absurd run (matchHere_none here w b split.symm)
  | some found =>
      obtain ⟨before, text, word⟩ := matchHere_sound here
      refine ⟨found, ?_, ⟨found.after, text.symm⟩, word⟩
      cases s with
      | nil => exact here
      | cons a s => simp only [search, here]

end Regex
