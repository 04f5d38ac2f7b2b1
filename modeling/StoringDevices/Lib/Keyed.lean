import Mathlib.Data.List.Flatten
import Mathlib.Data.List.Perm.Basic
import Mathlib.Logic.Function.Basic

/-! # Machines whose state is a map and whose events each address one key

An event reads and writes the map at its own key only, and may emit an output
there.  `run_getElem?` and `outputs_project` say that a key of the map, and the
outputs at it, depend on the events of that key alone; so two event lists with
the same projection on every key reach the same map and emit the same outputs
up to their order across keys. -/
set_option autoImplicit false

universe u v w x

namespace Keyed

structure Machine (K : Type u) (V : Type v) (E : Type w) (O : Type x) where
  key : E → Option K
  next : E → Option V → Option V
  emit : E → Option V → Option O

section Run
variable {K : Type u} {V : Type v} {E : Type w} {O : Type x}
variable {cmp : K → K → Ordering} [Std.TransCmp cmp] [Std.LawfulEqCmp cmp] [DecidableEq K]

def Machine.step (M : Machine K V E O) (m : Std.ExtTreeMap K V cmp) (e : E) : Std.ExtTreeMap K V cmp :=
  match M.key e with
  | none => m
  | some k => m.alter k (M.next e)

def Machine.run (M : Machine K V E O) (m : Std.ExtTreeMap K V cmp) (es : List E) :
    Std.ExtTreeMap K V cmp := es.foldl M.step m

omit [DecidableEq K] in
/-- A map has no more entries than there are possible keys. -/
theorem size_le_of_mem {m : Std.ExtTreeMap K V cmp} {ks : List K} (inside : ∀ k ∈ m, k ∈ ks) :
    m.size ≤ ks.length := by
  rw [← Std.ExtTreeMap.length_keys]
  apply (List.subperm_of_subset Std.ExtTreeMap.nodup_keys ?_).length_le
  intro k member
  exact inside k (Std.ExtTreeMap.mem_keys.mp member)

/-- The outputs of a run, in order, each with the key it was emitted at. -/
def Machine.outputs (M : Machine K V E O) : List E → Std.ExtTreeMap K V cmp → List (K × O)
  | [], _ => []
  | e :: es, m =>
      match M.key e with
      | none => M.outputs es m
      | some k => ((M.emit e m[k]?).map fun o => (k, o)).toList ++ M.outputs es (M.step m e)

/-- The events that address `k`. -/
def Machine.project (M : Machine K V E O) (k : K) (es : List E) : List E :=
  es.filter fun e => M.key e = some k

def Machine.localRun (M : Machine K V E O) (o : Option V) (es : List E) : Option V :=
  es.foldl (fun o e => M.next e o) o

def Machine.localOutputs (M : Machine K V E O) : List E → Option V → List O
  | [], _ => []
  | e :: es, o => (M.emit e o).toList ++ M.localOutputs es (M.next e o)

omit [Std.LawfulEqCmp cmp] [DecidableEq K] in
theorem step_getElem?_self (M : Machine K V E O) (m : Std.ExtTreeMap K V cmp) {e : E} {k : K}
    (here : M.key e = some k) : (M.step m e)[k]? = M.next e m[k]? := by
  simp [Machine.step, here]

omit [DecidableEq K] in
theorem step_getElem?_other (M : Machine K V E O) (m : Std.ExtTreeMap K V cmp) {e : E} {k : K}
    (other : M.key e ≠ some k) : (M.step m e)[k]? = m[k]? := by
  unfold Machine.step
  cases h : M.key e with
  | none => rfl
  | some k' =>
      have ne : k' ≠ k := fun same => other (by rw [h, same])
      simp [Std.ExtTreeMap.getElem?_alter, ne]

theorem run_getElem? (M : Machine K V E O) (k : K) :
    ∀ (es : List E) (m : Std.ExtTreeMap K V cmp),
      (M.run m es)[k]? = M.localRun m[k]? (M.project k es) := by
  intro es
  induction es with
  | nil => intro m; rfl
  | cons e es ih =>
      intro m
      have unfolded : M.run m (e :: es) = M.run (M.step m e) es := rfl
      rw [unfolded, ih (M.step m e)]
      by_cases here : M.key e = some k
      · rw [step_getElem?_self M m here]
        simp [Machine.project, Machine.localRun, here]
      · rw [step_getElem?_other M m here]
        simp [Machine.project, here]

theorem outputs_project (M : Machine K V E O) (k : K) :
    ∀ (es : List E) (m : Std.ExtTreeMap K V cmp),
      ((M.outputs es m).filter fun o => o.1 = k).map Prod.snd =
        M.localOutputs (M.project k es) m[k]? := by
  intro es
  induction es with
  | nil => intro m; rfl
  | cons e es ih =>
      intro m
      cases hk : M.key e with
      | none =>
          have skipped : M.project k (e :: es) = M.project k es := by simp [Machine.project, hk]
          rw [skipped, Machine.outputs, hk]
          exact ih m
      | some k' =>
          rw [Machine.outputs, hk]
          simp only [List.filter_append, List.map_append]
          rw [ih (M.step m e)]
          by_cases same : k' = k
          · subst same
            have kept : M.project k' (e :: es) = e :: M.project k' es := by
              simp [Machine.project, hk]
            rw [kept, Machine.localOutputs, step_getElem?_self M m hk]
            congr 1
            cases M.emit e m[k']? <;> simp
          · have skipped : M.project k (e :: es) = M.project k es := by
              simp [Machine.project, hk, same]
            have other : M.key e ≠ some k := by rw [hk]; simpa using same
            rw [skipped, step_getElem?_other M m other]
            cases M.emit e m[k']? <;> simp [same]

omit [DecidableEq K] in
theorem localRun_append (M : Machine K V E O) (o : Option V) (es es' : List E) :
    M.localRun o (es ++ es') = M.localRun (M.localRun o es) es' := List.foldl_append

omit [DecidableEq K] in
theorem localOutputs_append (M : Machine K V E O) (es' : List E) :
    ∀ (es : List E) (o : Option V),
      M.localOutputs (es ++ es') o = M.localOutputs es o ++ M.localOutputs es' (M.localRun o es) := by
  intro es
  induction es with
  | nil => intro o; rfl
  | cons e es ih =>
      intro o
      have tail := ih (M.next e o)
      simp only [List.cons_append, Machine.localOutputs, tail, List.append_assoc]
      rfl

/-! ### Maps that only grow -/

/-- Every key of `m` is in `m'`, with a value that continues the one it had. -/
def Grows (R : V → V → Prop) (m m' : Std.ExtTreeMap K V cmp) : Prop :=
  ∀ (k : K) (v : V), m[k]? = some v → ∃ v', m'[k]? = some v' ∧ R v v'

omit [Std.LawfulEqCmp cmp] [DecidableEq K] in
theorem Grows.refl {R : V → V → Prop} (reflexive : ∀ v, R v v) (m : Std.ExtTreeMap K V cmp) :
    Grows R m m := fun _ v here => ⟨v, here, reflexive v⟩

omit [Std.LawfulEqCmp cmp] [DecidableEq K] in
theorem Grows.trans {R : V → V → Prop} (transitive : ∀ a b c, R a b → R b c → R a c)
    {m m' m'' : Std.ExtTreeMap K V cmp} (first : Grows R m m') (second : Grows R m' m'') :
    Grows R m m'' := by
  intro k v here
  obtain ⟨v', here', kept⟩ := first k v here
  obtain ⟨v'', here'', kept'⟩ := second k v' here'
  exact ⟨v'', here'', transitive v v' v'' kept kept'⟩

omit [DecidableEq K] in
theorem step_grows {M : Machine K V E O} {R : V → V → Prop} (reflexive : ∀ v, R v v)
    (kept : ∀ e v, ∃ v', M.next e (some v) = some v' ∧ R v v') (m : Std.ExtTreeMap K V cmp) (e : E) :
    Grows R m (M.step m e) := by
  intro k v here
  by_cases own : M.key e = some k
  · rw [step_getElem?_self M m own, here]
    exact kept e v
  · rw [step_getElem?_other M m own]
    exact ⟨v, here, reflexive v⟩

omit [DecidableEq K] in
theorem run_grows {M : Machine K V E O} {R : V → V → Prop} (reflexive : ∀ v, R v v)
    (transitive : ∀ a b c, R a b → R b c → R a c)
    (kept : ∀ e v, ∃ v', M.next e (some v) = some v' ∧ R v v') :
    ∀ (es : List E) (m : Std.ExtTreeMap K V cmp), Grows R m (M.run m es) := by
  intro es
  induction es with
  | nil => intro m; exact .refl reflexive m
  | cons e es ih =>
      intro m
      exact (step_grows reflexive kept m e).trans transitive (ih (M.step m e))

/-! ### Properties of all values -/

omit [DecidableEq K] in
theorem step_forall {M : Machine K V E O} {P : V → Prop} {e : E}
    (kept : ∀ old, (∀ v, old = some v → P v) → ∀ v, M.next e old = some v → P v)
    {m : Std.ExtTreeMap K V cmp} (all : ∀ (k : K) (v : V), m[k]? = some v → P v) :
    ∀ (k : K) (v : V), (M.step m e)[k]? = some v → P v := by
  intro k v here
  by_cases own : M.key e = some k
  · rw [step_getElem?_self M m own] at here
    exact kept m[k]? (fun v' => all k v') v here
  · rw [step_getElem?_other M m own] at here
    exact all k v here

omit [DecidableEq K] in
/-- What every event keeps of the values holds of all of them after a run. -/
theorem run_forall {M : Machine K V E O} {P : V → Prop} :
    ∀ (es : List E) (m : Std.ExtTreeMap K V cmp),
      (∀ e ∈ es, ∀ old, (∀ v, old = some v → P v) → ∀ v, M.next e old = some v → P v) →
      (∀ (k : K) (v : V), m[k]? = some v → P v) →
      ∀ (k : K) (v : V), (M.run m es)[k]? = some v → P v := by
  intro es
  induction es with
  | nil => intro m _ all; exact all
  | cons e es ih =>
      intro m kept all
      exact ih (M.step m e) (fun e' member => kept e' (List.mem_cons_of_mem _ member))
        (step_forall (kept e List.mem_cons_self) all)

end Run

section Sequences
variable {K : Type u} {O : Type x} [DecidableEq K]

/-- Two keyed sequences with equal projections are permutations of each other. -/
theorem perm_of_project_eq [DecidableEq O] {xs ys : List (K × O)}
    (same : ∀ k, (xs.filter fun o => o.1 = k).map Prod.snd =
      (ys.filter fun o => o.1 = k).map Prod.snd) : xs.Perm ys := by
  rw [List.perm_iff_count]
  intro h
  obtain ⟨k, o⟩ := h
  have counted : ∀ zs : List (K × O),
      zs.count (k, o) = ((zs.filter fun z => z.1 = k).map Prod.snd).count o := by
    intro zs
    induction zs with
    | nil => rfl
    | cons z zs ih =>
        obtain ⟨k', o'⟩ := z
        by_cases hk : k' = k
        · subst hk
          simp only [List.count_cons, List.filter_cons, decide_true, if_true, List.map_cons, ih]
          simp
        · simp only [List.count_cons, List.filter_cons, hk, decide_false, ih]
          simp [hk]
  rw [counted xs, counted ys, same k]

/-- Two keyed sequences with the same keys in the same order and equal
projections are equal. -/
theorem eq_of_keys_eq_of_project_eq :
    ∀ xs ys : List (K × O), xs.map Prod.fst = ys.map Prod.fst →
      (∀ k, (xs.filter fun o => o.1 = k).map Prod.snd =
        (ys.filter fun o => o.1 = k).map Prod.snd) → xs = ys := by
  intro xs
  induction xs with
  | nil =>
      intro ys keys _
      exact (List.map_eq_nil_iff.mp keys.symm).symm
  | cons z xs ih =>
      intro ys keys same
      cases ys with
      | nil => simp at keys
      | cons y ys =>
          obtain ⟨k, o⟩ := z
          obtain ⟨k', o'⟩ := y
          simp only [List.map_cons, List.cons.injEq] at keys
          obtain ⟨rfl, keys⟩ := keys
          have head := same k
          simp only [List.filter_cons, decide_true, if_true, List.map_cons, List.cons.injEq] at head
          obtain ⟨rfl, _⟩ := head
          congr 1
          apply ih ys keys
          intro k'
          have tail := same k'
          by_cases hk : k = k'
          · simpa [List.filter_cons, hk] using tail
          · simpa [List.filter_cons, hk] using tail

/-- A sequence in increasing order of keys splits at every key. -/
theorem sorted_split {cmp : K → K → Ordering} [Std.TransCmp cmp] [Std.LawfulEqCmp cmp] (k : K) :
    ∀ xs : List (K × O), (xs.Pairwise fun a b => cmp a.1 b.1 = .lt) →
      xs = xs.filter (fun x => cmp x.1 k = .lt) ++
        (xs.filter (fun x => x.1 = k) ++ xs.filter fun x => cmp x.1 k = .gt) := by
  have notSelf : cmp k k = .eq := Std.ReflCmp.compare_self
  intro xs
  induction xs with
  | nil => intro _; rfl
  | cons x xs ih =>
      intro sorted
      obtain ⟨first, rest⟩ := List.pairwise_cons.mp sorted
      have tail := ih rest
      -- once a key is not below `k`, all later keys are above it
      have above : cmp x.1 k ≠ .lt → ∀ y ∈ xs, cmp y.1 k = .gt := by
        intro notBelow y member
        have order := first y member
        rw [Std.OrientedCmp.gt_iff_lt]
        cases here : cmp x.1 k with
        | lt => exact absurd here notBelow
        | eq =>
            rw [← Std.LawfulEqCmp.eq_of_compare here]
            exact order
        | gt => exact Std.TransCmp.lt_trans (Std.OrientedCmp.gt_iff_lt.mp here) order
      have allAbove : cmp x.1 k ≠ .lt →
          xs.filter (fun y => cmp y.1 k = .lt) = [] ∧
          xs.filter (fun y => y.1 = k) = [] ∧
          xs.filter (fun y => cmp y.1 k = .gt) = xs := by
        intro notBelow
        refine ⟨?_, ?_, ?_⟩
        · apply List.filter_eq_nil_iff.mpr
          intro y member
          simp [above notBelow y member]
        · apply List.filter_eq_nil_iff.mpr
          intro y member same
          have order := above notBelow y member
          rw [of_decide_eq_true same, notSelf] at order
          cases order
        · apply List.filter_eq_self.mpr
          intro y member
          simp [above notBelow y member]
      cases here : cmp x.1 k with
      | lt =>
          have ne : x.1 ≠ k := by
            intro same
            rw [same, notSelf] at here
            cases here
          rw [List.filter_cons_of_pos (by simp [here]), List.filter_cons_of_neg (by simp [ne]),
            List.filter_cons_of_neg (by simp [here]), List.cons_append, ← tail]
      | eq =>
          have same := Std.LawfulEqCmp.eq_of_compare here
          obtain ⟨noneBelow, noneHere, all⟩ := allAbove (by rw [here]; simp)
          rw [List.filter_cons_of_neg (by simp [here]), List.filter_cons_of_pos (by simp [same]),
            List.filter_cons_of_neg (by simp [here]), noneBelow, noneHere, all]
          rfl
      | gt =>
          have ne : x.1 ≠ k := by
            intro same
            rw [same, notSelf] at here
            cases here
          obtain ⟨noneBelow, noneHere, all⟩ := allAbove (by rw [here]; simp)
          rw [List.filter_cons_of_neg (by simp [here]), List.filter_cons_of_neg (by simp [ne]),
            List.filter_cons_of_pos (by simp [here]), noneBelow, noneHere, all]
          rfl

omit [DecidableEq K] in
/-- Sequences in increasing order of keys with the same members are the same. -/
theorem sorted_ext {cmp : K → K → Ordering} [Std.TransCmp cmp] {xs ys : List (K × O)}
    (sorted : xs.Pairwise fun a b => cmp a.1 b.1 = .lt)
    (sorted' : ys.Pairwise fun a b => cmp a.1 b.1 = .lt) (same : ∀ x, x ∈ xs ↔ x ∈ ys) :
    xs = ys := by
  have distinct : ∀ zs : List (K × O), (zs.Pairwise fun a b => cmp a.1 b.1 = .lt) → zs.Nodup := by
    intro zs pairs
    refine pairs.imp ?_
    intro a b less equal
    have self : cmp b.1 b.1 = .eq := Std.ReflCmp.compare_self
    rw [equal, self] at less
    cases less
  have perm := (List.perm_ext_iff_of_nodup (distinct xs sorted) (distinct ys sorted')).mpr same
  refine perm.eq_of_pairwise ?_ sorted sorted'
  intro a b _ _ less greater
  rw [Std.OrientedCmp.gt_iff_lt.mpr less] at greater
  cases greater

omit [DecidableEq K] in
/-- Off one key, sequences with the same members agree on either side of it. -/
theorem sorted_side_ext {cmp : K → K → Ordering} [Std.TransCmp cmp] {xs ys : List (K × O)}
    (sorted : xs.Pairwise fun a b => cmp a.1 b.1 = .lt)
    (sorted' : ys.Pairwise fun a b => cmp a.1 b.1 = .lt) {k : K} {order : Ordering}
    (side : order ≠ .eq) (same : ∀ x, x.1 ≠ k → (x ∈ xs ↔ x ∈ ys)) :
    xs.filter (fun x => cmp x.1 k = order) = ys.filter fun x => cmp x.1 k = order := by
  have self : cmp k k = .eq := Std.ReflCmp.compare_self
  have offKey : ∀ x : K × O, cmp x.1 k = order → x.1 ≠ k := by
    intro x here own
    rw [own, self] at here
    exact side here.symm
  apply sorted_ext (sorted.sublist List.filter_sublist) (sorted'.sublist List.filter_sublist)
  intro x
  rw [List.mem_filter, List.mem_filter]
  constructor
  · intro h
    exact ⟨(same x (offKey x (of_decide_eq_true h.2))).mp h.1, h.2⟩
  · intro h
    exact ⟨(same x (offKey x (of_decide_eq_true h.2))).mpr h.1, h.2⟩

/-- What comes before a key of the sequence is what is below it. -/
theorem sorted_takeWhile {cmp : K → K → Ordering} [Std.TransCmp cmp] {k : K} :
    ∀ {xs : List (K × O)}, (xs.Pairwise fun a b => cmp a.1 b.1 = .lt) → (∃ x ∈ xs, x.1 = k) →
      xs.takeWhile (fun x => x.1 ≠ k) = xs.filter fun x => cmp x.1 k = .lt := by
  have notSelf : cmp k k = .eq := Std.ReflCmp.compare_self
  intro xs
  induction xs with
  | nil =>
      intro _ present
      obtain ⟨x, member, _⟩ := present
      cases member
  | cons x xs ih =>
      intro sorted present
      obtain ⟨first, rest⟩ := List.pairwise_cons.mp sorted
      by_cases here : x.1 = k
      · have noneBelow : (x :: xs).filter (fun y => cmp y.1 k = .lt) = [] := by
          apply List.filter_eq_nil_iff.mpr
          intro y member below
          rcases List.mem_cons.mp member with same | later
          · rw [same, here, notSelf] at below
            simp at below
          · have order := first y later
            rw [here, ← Std.OrientedCmp.gt_iff_lt, of_decide_eq_true below] at order
            cases order
        rw [List.takeWhile_cons_of_neg (by simp [here]), noneBelow]
      · obtain ⟨y, member, own⟩ := present
        have later : y ∈ xs := by
          rcases List.mem_cons.mp member with same | later
          · rw [same] at own
            exact absurd own here
          · exact later
        have below : cmp x.1 k = .lt := by
          rw [← own]
          exact first y later
        rw [List.takeWhile_cons_of_pos (by simp [here]),
          List.filter_cons_of_pos (by simp [below]), ih rest ⟨y, later, own⟩]

/-- A sequence whose part at every key lifts along `g` lifts as a whole. -/
theorem exists_merge {S : Type w} (key : O → K) (keyOf : S → K) (g : S → O) :
    ∀ (xs : List O) (parts : K → List S), (∀ k, ∀ s ∈ parts k, keyOf s = k) →
      (∀ k, (parts k).map g = xs.filter fun x => key x = k) →
      ∃ ys : List S, ys.map g = xs ∧ ∀ k, ys.filter (fun s => keyOf s = k) = parts k := by
  intro xs
  induction xs with
  | nil =>
      intro parts _ lifts
      refine ⟨[], rfl, ?_⟩
      intro k
      exact (List.map_eq_nil_iff.mp (lifts k)).symm
  | cons x xs ih =>
      intro parts own lifts
      have here := lifts (key x)
      rw [List.filter_cons_of_pos (by simp)] at here
      obtain ⟨s, rest, shape, image, later⟩ := List.map_eq_cons_iff.mp here
      have ownRest : ∀ k, ∀ t ∈ Function.update parts (key x) rest k, keyOf t = k := by
        intro k t member
        by_cases same : k = key x
        · subst same
          rw [Function.update_self] at member
          exact own _ t (by rw [shape]; exact List.mem_cons_of_mem _ member)
        · rw [Function.update_of_ne same] at member
          exact own k t member
      have liftsRest : ∀ k, (Function.update parts (key x) rest k).map g =
          xs.filter fun y => decide (key y = k) := by
        intro k
        by_cases same : k = key x
        · subst same
          rw [Function.update_self]
          exact later
        · rw [Function.update_of_ne same, lifts k,
            List.filter_cons_of_neg (by simpa using Ne.symm same)]
      obtain ⟨ys, images, ports⟩ := ih (Function.update parts (key x) rest) ownRest liftsRest
      have keyHere : keyOf s = key x := own _ s (by rw [shape]; simp)
      refine ⟨s :: ys, by rw [List.map_cons, image, images], ?_⟩
      intro k
      by_cases same : k = key x
      · subst same
        rw [List.filter_cons_of_pos (by simpa using keyHere), ports, Function.update_self, shape]
      · rw [List.filter_cons_of_neg (by rw [keyHere]; simpa using Ne.symm same), ports,
          Function.update_of_ne same]

/-- A sequence is, up to order, the concatenation of its parts under a list of
distinct keys that has all of its keys. -/
theorem flatMap_filter_perm {E : Type w} (key : E → K) {ks : List K} (distinct : ks.Nodup) :
    ∀ xs : List E, (∀ x ∈ xs, key x ∈ ks) →
      (ks.flatMap fun k => xs.filter fun x => key x = k).Perm xs := by
  intro xs
  induction xs with
  | nil => intro _; simp
  | cons x xs ih =>
      intro covered
      obtain ⟨left, right, split⟩ := List.append_of_mem (covered x (by simp))
      have rest := ih fun y hy => covered y (List.mem_cons_of_mem _ hy)
      have apart : ∀ part : List K, key x ∉ part →
          (part.flatMap fun k => (x :: xs).filter fun y => key y = k) =
            part.flatMap fun k => xs.filter fun y => decide (key y = k) := by
        intro part absent
        apply List.flatMap_congr
        intro k hk
        have ne : key x ≠ k := fun same => absent (same ▸ hk)
        simp [ne]
      rw [split, List.nodup_append, List.nodup_cons] at distinct
      have notLeft : key x ∉ left := fun h => distinct.2.2 _ h _ (by simp) rfl
      rw [split] at rest ⊢
      simp only [List.flatMap_append, List.flatMap_cons] at rest ⊢
      rw [apart left notLeft, apart right distinct.2.1.1, List.filter_cons_of_pos (by simp)]
      exact List.perm_middle.trans (rest.cons x)

end Sequences

section Parts
variable {K : Type u} {V : Type v}
variable {cmp : K → K → Ordering} [Std.TransCmp cmp] [Std.LawfulEqCmp cmp] [DecidableEq K]

omit [Std.LawfulEqCmp cmp] [DecidableEq K] in
theorem toList_sorted (m : Std.ExtTreeMap K V cmp) :
    m.toList.Pairwise fun a b => cmp a.1 b.1 = .lt :=
  Std.ExtTreeMap.ordered_keys_toList

/-- The part of a map at one key. -/
theorem toList_at (m : Std.ExtTreeMap K V cmp) (k : K) :
    m.toList.filter (fun x => x.1 = k) = m[k]?.toList.map fun v => (k, v) := by
  have self : cmp k k = .eq := Std.ReflCmp.compare_self
  have sorted := toList_sorted m
  apply sorted_ext (sorted.sublist List.filter_sublist)
  · cases m[k]? <;> simp
  · intro x
    rw [List.mem_filter, Std.ExtTreeMap.mem_toList_iff_getElem?_eq_some, List.mem_map]
    constructor
    · intro h
      have own := of_decide_eq_true h.2
      exact ⟨x.2, by rw [← own, h.1]; simp, by rw [← own]⟩
    · intro h
      obtain ⟨v, here, rfl⟩ := h
      exact ⟨by simpa using here, by simp⟩

/-- A map is what it has below a key, at the key and above it. -/
theorem toList_split (m : Std.ExtTreeMap K V cmp) (k : K) :
    m.toList = m.toList.filter (fun x => cmp x.1 k = .lt) ++
      (m[k]?.toList.map (fun v => (k, v)) ++ m.toList.filter fun x => cmp x.1 k = .gt) := by
  rw [← toList_at]
  exact sorted_split k m.toList (toList_sorted m)

omit [DecidableEq K] in
/-- A write at one key leaves both other parts as they were. -/
theorem toList_side {m m' : Std.ExtTreeMap K V cmp} {k : K} {order : Ordering}
    (side : order ≠ .eq) (others : ∀ k', k' ≠ k → m'[k']? = m[k']?) :
    m'.toList.filter (fun x => cmp x.1 k = order) = m.toList.filter fun x => cmp x.1 k = order := by
  apply sorted_side_ext (toList_sorted m') (toList_sorted m) side
  intro x off
  rw [Std.ExtTreeMap.mem_toList_iff_getElem?_eq_some,
    Std.ExtTreeMap.mem_toList_iff_getElem?_eq_some, others x.1 off]

end Parts

end Keyed
