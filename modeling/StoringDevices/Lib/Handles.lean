import Mathlib.Data.List.Basic
import Mathlib.Data.List.Pairwise
import Mathlib.Data.List.TakeWhile
import Std.Data.ExtTreeMap
import StoringDevices.Lib.Keyed

/-! # Ordered maps with handles

An ordered map of elements that keep their handle for as long as they are in it.
An iterator is the handle of an element or the position past the last one.
Erasing an element takes its handle out of use for good, since an inserted
element gets a handle that was never issued before; reading or advancing an
iterator whose element is gone has no result. -/
set_option autoImplicit false

universe u v

namespace Handles

structure Node (K : Type u) (V : Type v) where
  handle : Nat
  key : K
  value : V

/-- `next` is above every handle ever issued. -/
structure HandleMap (K : Type u) (V : Type v) (cmp : K → K → Ordering) where
  nodes : List (Node K V)
  next : Nat
  sorted : nodes.Pairwise fun a b => cmp a.key b.key = .lt
  distinct : ∀ a ∈ nodes, ∀ b ∈ nodes, a.handle = b.handle → a = b
  issued : ∀ node ∈ nodes, node.handle < next

inductive Iterator where
  | element (handle : Nat)
  | past
  deriving DecidableEq

section Operations
variable {K : Type u} {V : Type v} {cmp : K → K → Ordering}

/-- The iterator to the first of the elements that are left. -/
def iteratorTo : List (Node K V) → Iterator
  | [] => .past
  | node :: _ => .element node.handle

namespace HandleMap

def empty : HandleMap K V cmp where
  nodes := []
  next := 0
  sorted := .nil
  distinct := by simp
  issued := by simp

def keys (m : HandleMap K V cmp) : List K := m.nodes.map Node.key

def toMap (m : HandleMap K V cmp) : Std.ExtTreeMap K V cmp :=
  .ofList (m.nodes.map fun node => (node.key, node.value)) cmp

def begin (m : HandleMap K V cmp) : Iterator := iteratorTo m.nodes

def find [DecidableEq K] (m : HandleMap K V cmp) (key : K) : Iterator :=
  iteratorTo (m.nodes.filter fun node => node.key = key)

def count [DecidableEq K] (m : HandleMap K V cmp) (key : K) : Nat :=
  m.nodes.countP fun node => node.key = key

/-- `none` past the last element and at an element that is gone. -/
def deref (m : HandleMap K V cmp) : Iterator → Option (Node K V)
  | .past => none
  | .element handle => m.nodes.find? fun node => node.handle = handle

def advance (m : HandleMap K V cmp) : Iterator → Option Iterator
  | .past => none
  | .element handle =>
      match m.nodes.dropWhile fun node => node.handle ≠ handle with
      | [] => none
      | _ :: rest => some (iteratorTo rest)

def erase (m : HandleMap K V cmp) (position : Iterator) : Option (HandleMap K V cmp) :=
  match m.deref position with
  | none => none
  | some erased =>
      some
        { nodes := m.nodes.filter fun node => node.handle ≠ erased.handle
          next := m.next
          sorted := m.sorted.sublist List.filter_sublist
          distinct := fun a member b member' =>
            m.distinct a (List.mem_filter.mp member).1 b (List.mem_filter.mp member').1
          issued := fun node member => m.issued node (List.mem_filter.mp member).1 }

variable [Std.TransCmp cmp]

/-- The elements with a new one between those below its key and those above it. -/
def placed (m : HandleMap K V cmp) (key : K) (value : V) : List (Node K V) :=
  m.nodes.filter (fun node => cmp node.key key = .lt) ++
    ⟨m.next, key, value⟩ :: m.nodes.filter fun node => cmp node.key key = .gt

omit [Std.TransCmp cmp] in
theorem mem_placed {m : HandleMap K V cmp} {key : K} {value : V} {node : Node K V} :
    node ∈ m.placed key value ↔ node = ⟨m.next, key, value⟩ ∨
      node ∈ m.nodes ∧ cmp node.key key ≠ .eq := by
  unfold placed
  rw [List.mem_append, List.mem_cons, List.mem_filter, List.mem_filter]
  cases cmp node.key key <;> simp [or_comm]

def place (m : HandleMap K V cmp) (key : K) (value : V) : HandleMap K V cmp where
  nodes := m.placed key value
  next := m.next + 1
  sorted := by
    unfold placed
    rw [List.pairwise_append, List.pairwise_cons]
    refine ⟨m.sorted.sublist List.filter_sublist,
      ⟨?_, m.sorted.sublist List.filter_sublist⟩, ?_⟩
    · intro above member
      exact Std.OrientedCmp.gt_iff_lt.mp (of_decide_eq_true (List.mem_filter.mp member).2)
    · intro below member above member'
      have order := of_decide_eq_true (List.mem_filter.mp member).2
      rcases List.mem_cons.mp member' with rfl | later
      · exact order
      · exact Std.TransCmp.lt_trans order
          (Std.OrientedCmp.gt_iff_lt.mp (of_decide_eq_true (List.mem_filter.mp later).2))
  distinct := by
    intro a member b member' same
    rcases mem_placed.mp member with rfl | ⟨old, _⟩ <;>
      rcases mem_placed.mp member' with rfl | ⟨old', _⟩
    · rfl
    · exact absurd same.symm (Nat.ne_of_lt (m.issued b old'))
    · exact absurd same (Nat.ne_of_lt (m.issued a old))
    · exact m.distinct a old b old' same
  issued := by
    intro node member
    rcases mem_placed.mp member with rfl | ⟨old, _⟩
    · exact Nat.lt_succ_self m.next
    · exact Nat.lt_succ_of_lt (m.issued node old)

/-- A key that is there keeps its element. -/
def insert [DecidableEq K] (m : HandleMap K V cmp) (key : K) (value : V) :
    HandleMap K V cmp × Iterator :=
  match m.find key with
  | .element handle => (m, .element handle)
  | .past => (m.place key value, .element m.next)

/-- `find`, read the element, `erase`, `insert`. -/
def replace [DecidableEq K] (m : HandleMap K V cmp) (key : K) (value : V) :
    Option (HandleMap K V cmp × Iterator) := do
  let position := m.find key
  let _ ← m.deref position
  let m ← m.erase position
  some (m.insert key value)

end HandleMap
end Operations

/-! ## Iterators to elements -/

section Iterators
variable {K : Type u} {V : Type v} {cmp : K → K → Ordering} {m : HandleMap K V cmp}

theorem deref_element (handle : Nat) :
    m.deref (.element handle) = m.nodes.find? fun node => node.handle = handle := rfl

theorem advance_element (handle : Nat) :
    m.advance (.element handle) =
      match m.nodes.dropWhile fun node => node.handle ≠ handle with
      | [] => none
      | _ :: rest => some (iteratorTo rest) := rfl

theorem deref_eq_some {position : Iterator} {node : Node K V} :
    m.deref position = some node ↔ node ∈ m.nodes ∧ position = .element node.handle := by
  cases position with
  | past => simp [HandleMap.deref]
  | element handle =>
      rw [deref_element, Iterator.element.injEq]
      constructor
      · intro found
        have own : node.handle = handle := by simpa using List.find?_some found
        exact ⟨List.mem_of_find?_eq_some found, own.symm⟩
      · intro h
        obtain ⟨member, rfl⟩ := h
        cases found : m.nodes.find? fun other => other.handle = node.handle with
        | none => simpa using List.find?_eq_none.mp found node member
        | some other =>
            have own : other.handle = node.handle := by simpa using List.find?_some found
            rw [m.distinct other (List.mem_of_find?_eq_some found) node member own]

variable [Std.TransCmp cmp]

/-- Advancing to the next element, or past the last one. -/
theorem advance_of_split {before after : List (Node K V)} {node : Node K V}
    (split : m.nodes = before ++ node :: after) :
    m.advance (.element node.handle) = some (iteratorTo after) := by
  have self : cmp node.key node.key = .eq := Std.ReflCmp.compare_self
  have sorted := m.sorted
  rw [split, List.pairwise_append] at sorted
  have earlier : ∀ other ∈ before, decide (other.handle ≠ node.handle) = true := by
    intro other member
    apply decide_eq_true
    intro same
    have equal := m.distinct other (by rw [split]; exact List.mem_append_left _ member) node
      (by rw [split]; simp) same
    have order := sorted.2.2 other member node (by simp)
    rw [equal, self] at order
    cases order
  rw [advance_element, split, List.dropWhile_append_of_pos earlier,
    List.dropWhile_cons_of_neg (by simp)]

omit [Std.TransCmp cmp] in
/-- Advancing an iterator whose element is gone has no result. -/
theorem advance_of_gone {handle : Nat} (gone : ∀ node ∈ m.nodes, node.handle ≠ handle) :
    m.advance (.element handle) = none := by
  have all : (m.nodes.dropWhile fun node => node.handle ≠ handle) = [] := by
    rw [List.dropWhile_eq_nil_iff]
    intro node member
    exact decide_eq_true (gone node member)
  rw [advance_element, all]

theorem node_of_key {a b : Node K V} (member : a ∈ m.nodes) (member' : b ∈ m.nodes)
    (same : a.key = b.key) : a = b := by
  have apart : m.nodes.Pairwise fun a b => a.key ≠ b.key := by
    refine m.sorted.imp ?_
    intro a b order equal
    have self : cmp b.key b.key = .eq := Std.ReflCmp.compare_self
    rw [equal, self] at order
    cases order
  have symmetric : Std.Symm fun a b : Node K V => a.key ≠ b.key := ⟨fun _ _ h => h.symm⟩
  by_contra ne
  exact apart.forall member member' ne same

/-! ## Looking up and replacing an element -/

variable [Std.LawfulEqCmp cmp] [DecidableEq K]

omit [Std.LawfulEqCmp cmp] in
theorem find_of_mem {node : Node K V} (member : node ∈ m.nodes) :
    m.find node.key = .element node.handle := by
  unfold HandleMap.find
  cases found : m.nodes.filter fun other => other.key = node.key with
  | nil =>
      have inside : node ∈ m.nodes.filter fun other => other.key = node.key :=
        List.mem_filter.mpr ⟨member, by simp⟩
      rw [found] at inside
      cases inside
  | cons other rest =>
      have inside : other ∈ m.nodes.filter fun other => other.key = node.key := by
        rw [found]
        exact List.mem_cons_self
      obtain ⟨member', own⟩ := List.mem_filter.mp inside
      rw [node_of_key member' member (of_decide_eq_true own)]
      rfl

omit [Std.TransCmp cmp] [Std.LawfulEqCmp cmp] in
theorem find_of_absent {key : K} (absent : ∀ node ∈ m.nodes, node.key ≠ key) :
    m.find key = .past := by
  have none : (m.nodes.filter fun node => node.key = key) = [] :=
    List.filter_eq_nil_iff.mpr fun node member own => absent node member (of_decide_eq_true own)
  unfold HandleMap.find
  rw [none]
  rfl

/-- Inserting a new key adds one element, with a new handle. -/
theorem mem_insert {key : K} (absent : ∀ node ∈ m.nodes, node.key ≠ key) (value : V)
    (node : Node K V) :
    node ∈ (m.insert key value).1.nodes ↔ node = ⟨m.next, key, value⟩ ∨ node ∈ m.nodes := by
  unfold HandleMap.insert
  rw [find_of_absent absent]
  change node ∈ m.placed key value ↔ _
  rw [HandleMap.mem_placed]
  constructor
  · intro h
    exact h.imp_right And.left
  · intro h
    refine h.imp_right fun member => ⟨member, fun same => ?_⟩
    exact absent node member (Std.LawfulEqCmp.eq_of_compare same)

/-- Replacing an element gives its key a new element; the others stay. -/
theorem replace_of_mem {old : Node K V} (member : old ∈ m.nodes) (value : V) :
    ∃ m' position, m.replace old.key value = some (m', position) ∧
      ∀ node, node ∈ m'.nodes ↔
        node = ⟨m.next, old.key, value⟩ ∨ node ∈ m.nodes ∧ node.key ≠ old.key := by
  have read : m.deref (.element old.handle) = some old := deref_eq_some.mpr ⟨member, rfl⟩
  obtain ⟨erased, shape, next, rest⟩ : ∃ erased, m.erase (.element old.handle) = some erased ∧
      erased.next = m.next ∧
      ∀ node, node ∈ erased.nodes ↔ node ∈ m.nodes ∧ node.key ≠ old.key := by
    unfold HandleMap.erase
    rw [read]
    refine ⟨_, rfl, rfl, ?_⟩
    intro node
    rw [List.mem_filter]
    constructor
    · intro h
      refine ⟨h.1, fun same => of_decide_eq_true h.2 ?_⟩
      rw [node_of_key h.1 member same]
    · intro h
      refine ⟨h.1, decide_eq_true fun same => h.2 ?_⟩
      rw [m.distinct node h.1 old member same]
  have absent : ∀ node ∈ erased.nodes, node.key ≠ old.key :=
    fun node inside => ((rest node).mp inside).2
  refine ⟨(erased.insert old.key value).1, (erased.insert old.key value).2, ?_, ?_⟩
  · simp [HandleMap.replace, find_of_mem member, read, shape]
  · intro node
    rw [mem_insert absent, next, rest]

omit [Std.TransCmp cmp] [Std.LawfulEqCmp cmp] [DecidableEq K] in
/-- The handle of a replaced element is out of use. -/
theorem replaced_gone {old : Node K V} (member : old ∈ m.nodes) {value : V}
    {m' : HandleMap K V cmp} (after : ∀ node, node ∈ m'.nodes ↔
      node = ⟨m.next, old.key, value⟩ ∨ node ∈ m.nodes ∧ node.key ≠ old.key) :
    ∀ node ∈ m'.nodes, node.handle ≠ old.handle := by
  intro node inside same
  rcases (after node).mp inside with rfl | ⟨kept, other⟩
  · exact Nat.ne_of_gt (m.issued old member) same
  · exact other (congrArg Node.key (m.distinct node kept old member same))

/-! ## The map that the elements represent -/

/-- The elements are the entries of the map. -/
def Represents (m : HandleMap K V cmp) (map : Std.ExtTreeMap K V cmp) : Prop :=
  ∀ k v, map[k]? = some v ↔ ∃ node ∈ m.nodes, node.key = k ∧ node.value = v

theorem Represents.of_new {map : Std.ExtTreeMap K V cmp} {m' : HandleMap K V cmp}
    (represents : Represents m map) {key : K} {value : V}
    (after : ∀ node, node ∈ m'.nodes ↔
      node = ⟨m.next, key, value⟩ ∨ node ∈ m.nodes ∧ node.key ≠ key) :
    Represents m' (map.insert key value) := by
  intro k v
  rw [Std.ExtTreeMap.getElem?_insert]
  by_cases own : key = k
  · subst own
    simp only [Std.ReflCmp.compare_self, if_true, Option.some.injEq, after]
    constructor
    · rintro rfl
      exact ⟨_, .inl rfl, rfl, rfl⟩
    · rintro ⟨node, rfl | ⟨_, other⟩, here, rfl⟩
      · rfl
      · exact absurd here other
  · have apart : cmp key k ≠ .eq := fun same => own (Std.LawfulEqCmp.eq_of_compare same)
    rw [if_neg apart, represents k v]
    simp only [after]
    constructor
    · rintro ⟨node, member, here, rfl⟩
      exact ⟨node, .inr ⟨member, by rw [here]; exact Ne.symm own⟩, here, rfl⟩
    · rintro ⟨node, rfl | ⟨member, _⟩, here, rfl⟩
      · exact absurd here own
      · exact ⟨node, member, here, rfl⟩

/-- The elements represent a map. -/
theorem exists_represented (m : HandleMap K V cmp) :
    ∃ map : Std.ExtTreeMap K V cmp, Represents m map := by
  have ofNodes : ∀ nodes : List (Node K V), (nodes.Pairwise fun a b => cmp a.key b.key = .lt) →
      ∃ map : Std.ExtTreeMap K V cmp,
        ∀ k v, map[k]? = some v ↔ ∃ node ∈ nodes, node.key = k ∧ node.value = v := by
    intro nodes
    induction nodes with
    | nil => intro _; exact ⟨∅, fun k v => by simp⟩
    | cons node nodes ih =>
        intro sorted
        obtain ⟨first, later⟩ := List.pairwise_cons.mp sorted
        obtain ⟨map, entries⟩ := ih later
        refine ⟨map.insert node.key node.value, fun k v => ?_⟩
        rw [Std.ExtTreeMap.getElem?_insert]
        by_cases own : node.key = k
        · have others : ∀ other ∈ nodes, other.key ≠ k := by
            intro other member same
            have self : cmp k k = .eq := Std.ReflCmp.compare_self
            have order := first other member
            rw [own, same, self] at order
            cases order
          have notLater : ¬ ∃ other ∈ nodes, other.key = k ∧ other.value = v := by
            rintro ⟨other, member, here, _⟩
            exact others other member here
          simp [own, notLater]
        · have apart : cmp node.key k ≠ .eq :=
            fun same => own (Std.LawfulEqCmp.eq_of_compare same)
          simp [apart, own, entries]
  exact ofNodes m.nodes m.sorted

/-! ## Operations on represented maps -/

omit [Std.LawfulEqCmp cmp] [DecidableEq K] in
theorem empty_represents : Represents (HandleMap.empty : HandleMap K V cmp) ∅ := by
  intro k v
  simp [HandleMap.empty]

omit [Std.LawfulEqCmp cmp] in
/-- A key of the map is found at its element. -/
theorem Represents.find_present {map : Std.ExtTreeMap K V cmp} (represents : Represents m map)
    {key : K} {value : V} (present : map[key]? = some value) :
    ∃ node ∈ m.nodes, node.key = key ∧ node.value = value ∧
      m.find key = .element node.handle ∧ m.deref (.element node.handle) = some node := by
  obtain ⟨node, member, rfl, rfl⟩ := (represents key value).mp present
  exact ⟨node, member, rfl, rfl, find_of_mem member, deref_eq_some.mpr ⟨member, rfl⟩⟩

omit [Std.LawfulEqCmp cmp] [DecidableEq K] in
theorem Represents.absent {map : Std.ExtTreeMap K V cmp} (represents : Represents m map)
    {key : K} (missing : map[key]? = none) : ∀ node ∈ m.nodes, node.key ≠ key := by
  intro node member own
  have present := (represents node.key node.value).mpr ⟨node, member, rfl, rfl⟩
  rw [own, missing] at present
  cases present

omit [Std.LawfulEqCmp cmp] in
/-- A key that is not in the map is not found. -/
theorem Represents.find_absent {map : Std.ExtTreeMap K V cmp} (represents : Represents m map)
    {key : K} (missing : map[key]? = none) : m.find key = .past :=
  find_of_absent (represents.absent missing)

omit [Std.LawfulEqCmp cmp] in
theorem Represents.count_eq_zero_iff {map : Std.ExtTreeMap K V cmp} (represents : Represents m map)
    (key : K) : m.count key = 0 ↔ map[key]? = none := by
  unfold HandleMap.count
  rw [List.countP_eq_zero]
  constructor
  · intro none_
    cases known : map[key]? with
    | none => rfl
    | some value =>
        obtain ⟨node, member, own, _⟩ := (represents key value).mp known
        exact absurd (decide_eq_true own) (none_ node member)
  · intro missing node member own
    exact represents.absent missing node member (of_decide_eq_true own)

/-- Replacing the element of a key replaces its value in the map. -/
theorem Represents.replace {map : Std.ExtTreeMap K V cmp} (represents : Represents m map)
    {key : K} {old : V} (present : map[key]? = some old) (value : V) :
    ∃ m' position, m.replace key value = some (m', position) ∧
      Represents m' (map.insert key value) := by
  obtain ⟨node, member, rfl, _⟩ := (represents key old).mp present
  obtain ⟨m', position, run, after⟩ := replace_of_mem member value
  exact ⟨m', position, run, represents.of_new after⟩

/-- Inserting a new key adds it to the map. -/
theorem Represents.insert {map : Std.ExtTreeMap K V cmp} (represents : Represents m map)
    {key : K} (missing : map[key]? = none) (value : V) :
    Represents (m.insert key value).1 (map.insert key value) := by
  have absent := represents.absent missing
  apply represents.of_new
  intro node
  rw [mem_insert absent]
  constructor
  · intro h
    exact h.imp_right fun member => ⟨member, absent node member⟩
  · intro h
    exact h.imp_right And.left

omit [DecidableEq K] in
/-- The elements stand in the order of the map. -/
theorem Represents.toList_eq {map : Std.ExtTreeMap K V cmp} (represents : Represents m map) :
    (m.nodes.map fun node => (node.key, node.value)) = map.toList := by
  have sorted : (m.nodes.map fun node => (node.key, node.value)).Pairwise
      fun a b => cmp a.1 b.1 = .lt := List.pairwise_map.mpr m.sorted
  have mapSorted : map.toList.Pairwise fun a b => cmp a.1 b.1 = .lt :=
    Std.ExtTreeMap.ordered_keys_toList
  apply Keyed.sorted_ext sorted mapSorted
  rintro ⟨k, v⟩
  rw [Std.ExtTreeMap.mem_toList_iff_getElem?_eq_some, represents k v, List.mem_map]
  simp

omit [DecidableEq K] in
theorem Represents.keys_eq {map : Std.ExtTreeMap K V cmp} (represents : Represents m map) :
    m.keys = map.keys := by
  rw [← Std.ExtTreeMap.map_fst_toList_eq_keys, ← represents.toList_eq, List.map_map]
  rfl

theorem Represents.toMap_eq {map : Std.ExtTreeMap K V cmp} (represents : Represents m map) :
    m.toMap = map := by
  unfold HandleMap.toMap
  rw [represents.toList_eq]
  apply Std.ExtTreeMap.ext_getElem?
  intro k
  cases known : map[k]? with
  | none =>
      apply Std.ExtTreeMap.getElem?_ofList_of_contains_eq_false
      rw [Std.ExtTreeMap.map_fst_toList_eq_keys, Std.ExtTreeMap.contains_keys]
      rw [← Std.ExtTreeMap.isSome_getElem?_eq_contains, known]
      rfl
  | some v =>
      exact Std.ExtTreeMap.getElem?_ofList_of_mem Std.ReflCmp.compare_self
        Std.ExtTreeMap.distinct_keys_toList
        (Std.ExtTreeMap.mem_toList_iff_getElem?_eq_some.mpr known)

end Iterators

/-! ## Steps that may fail, side by side -/

/-- Two computations that fail together and otherwise give related results stay
so when related continuations follow. -/
theorem rel_bind {A B C D : Type} {R : A → B → Prop} {S : C → D → Prop} {x : Option A}
    {y : Option B} {f : A → Option C} {g : B → Option D} (first : Option.Rel R x y)
    (rest : ∀ a b, R a b → Option.Rel S (f a) (g b)) :
    Option.Rel S (x.bind f) (y.bind g) := by
  cases first with
  | none => exact .none
  | some related => exact rest _ _ related

theorem rel_foldlM {A B I : Type} {R : A → B → Prop} {f : A → I → Option A} {g : B → I → Option B}
    (step : ∀ a b i, R a b → Option.Rel R (f a i) (g b i)) :
    ∀ (items : List I) (a : A) (b : B), R a b →
      Option.Rel R (items.foldlM f a) (items.foldlM g b) := by
  intro items
  induction items with
  | nil => intro a b related; exact .some related
  | cons i items ih =>
      intro a b related
      exact rel_bind (step a b i related) ih

theorem rel_some {A B : Type} {R : A → B → Prop} {x : Option A} {b : B}
    (related : Option.Rel R x (some b)) : ∃ a, x = some a ∧ R a b := by
  cases related with
  | some holds => exact ⟨_, rfl, holds⟩

end Handles
