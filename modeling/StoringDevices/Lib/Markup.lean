import Mathlib.Algebra.GroupWithZero.Nat
import Mathlib.Data.List.Find
import Mathlib.Data.List.Infix

/-! # Reading tables back from marked-up text

A text in which literal tags open and close tables, rows and cells.  `scan` cuts
it at the tags, and `read` collects the cells of the rows of the tables, failing
on a tag that is out of place.  Each tag read is a tag of the result, so a text
rendered from blocks is read back exactly when no content holds a tag. -/
set_option autoImplicit false

universe u

namespace Markup

variable {α : Type u}

inductive Mark where
  | openTable
  | closeTable
  | openRow
  | closeRow
  | openCell
  | closeCell
  deriving DecidableEq

/-- Tags that begin with one letter, which is nowhere else in a tag; none of them
is the beginning of another. -/
structure Tags (α : Type u) where
  opener : α
  all : List (Mark × List α)
  begins : ∀ tag ∈ all, ∃ rest, tag.2 = opener :: rest ∧ opener ∉ rest
  apart : ∀ tag ∈ all, ∀ tag' ∈ all, tag.2 <+: tag'.2 → tag = tag'

/-- No tag goes on into it. -/
def Opens (tags : Tags α) (s : List α) : Prop := ∀ a ∈ s.head?, a = tags.opener

/-- A tag does not cross into a text that no tag goes on into. -/
theorem prefix_append_iff {tags : Tags α} {s rest : List α} (ne : s ≠ []) (opens : Opens tags rest)
    {tag : Mark × List α} (known : tag ∈ tags.all) : tag.2 <+: s ++ rest ↔ tag.2 <+: s := by
  constructor
  · intro begins
    rcases Nat.le_total tag.2.length s.length with short | long
    · exact List.prefix_of_prefix_length_le begins (List.prefix_append _ _) short
    · obtain ⟨more, shape⟩ := List.prefix_of_prefix_length_le (List.prefix_append s rest) begins long
      cases more with
      | nil =>
          rw [← shape, List.append_nil]
      | cons a more =>
          exfalso
          rw [← shape] at begins
          obtain ⟨after, split⟩ := (List.prefix_append_right_inj s).mp begins
          have opener : a = tags.opener := opens a (by rw [← split]; rfl)
          obtain ⟨tail, begin, once⟩ := tags.begins tag known
          cases s with
          | nil => exact ne rfl
          | cons b s =>
              rw [← shape] at begin
              obtain ⟨_, rfl⟩ := List.cons.inj begin
              exact once (by simp [opener])
  · intro begins
    exact begins.trans (List.prefix_append _ _)

/-- No tag is in it. -/
def Clean (tags : Tags α) (s : List α) : Prop := ∀ tag ∈ tags.all, ¬ tag.2 <:+: s

theorem Clean.tail {tags : Tags α} {a : α} {s : List α} (clean : Clean tags (a :: s)) : Clean tags s := by
  intro tag known inside
  exact clean tag known (inside.trans (List.suffix_cons a s).isInfix)

/-- A text without the letter that begins the tags holds none. -/
theorem clean_of_not_mem {tags : Tags α} {s : List α} (absent : tags.opener ∉ s) : Clean tags s := by
  intro tag known inside
  obtain ⟨rest, shape, _⟩ := tags.begins tag known
  rw [shape] at inside
  exact absent (inside.subset List.mem_cons_self)

/-! ## Scanning -/

section Scan
variable [DecidableEq α] (tags : Tags α)

def tagAt (s : List α) : Option (Mark × List α) := tags.all.find? fun tag => tag.2.isPrefixOf s

/-- The marks of the tags and the letters between them; `skip` letters belong to
the tag read last. -/
def scan : Nat → List α → List (Mark ⊕ α)
  | _, [] => []
  | skip + 1, _ :: s => scan skip s
  | 0, a :: s =>
      match tagAt tags (a :: s) with
      | some tag => .inl tag.1 :: scan (tag.2.length - 1) s
      | none => .inr a :: scan 0 s

instance (s : List α) : Decidable (Clean tags s) :=
  inferInstanceAs (Decidable (∀ tag ∈ tags.all, ¬ tag.2 <:+: s))

variable {tags}

theorem scan_drop : ∀ (n : Nat) (s : List α), scan tags n s = scan tags 0 (s.drop n)
  | 0, _ => rfl
  | _ + 1, [] => rfl
  | n + 1, _ :: s => scan_drop n s

theorem tagAt_some {s : List α} {tag : Mark × List α} (found : tagAt tags s = some tag) :
    tag ∈ tags.all ∧ tag.2 <+: s :=
  ⟨List.mem_of_find?_eq_some found, List.isPrefixOf_iff_prefix.mp
    (List.find?_some (p := fun tag : Mark × List α => tag.2.isPrefixOf s) found)⟩

theorem tagAt_tag {tag : Mark × List α} (known : tag ∈ tags.all) (rest : List α) :
    tagAt tags (tag.2 ++ rest) = some tag := by
  cases found : tagAt tags (tag.2 ++ rest) with
  | none =>
      have absent := List.find?_eq_none.mp found tag known
      exact absurd (List.isPrefixOf_iff_prefix.mpr (List.prefix_append _ _)) absent
  | some other =>
      obtain ⟨known', begins⟩ := tagAt_some found
      rcases List.prefix_or_prefix_of_prefix begins (List.prefix_append tag.2 rest) with first | first
      · rw [tags.apart other known' tag known first]
      · rw [tags.apart tag known other known' first]

theorem scan_tag {tag : Mark × List α} (known : tag ∈ tags.all) (rest : List α) :
    scan tags 0 (tag.2 ++ rest) = .inl tag.1 :: scan tags 0 rest := by
  obtain ⟨tail, shape, _⟩ := tags.begins tag known
  have here := tagAt_tag known rest
  rw [shape, List.cons_append] at here ⊢
  rw [scan, here]
  simp only
  rw [scan_drop, shape, List.length_cons, Nat.add_sub_cancel, List.drop_left]

theorem tagAt_append {s rest : List α} (ne : s ≠ []) (opens : Opens tags rest) :
    tagAt tags (s ++ rest) = tagAt tags s := by
  unfold tagAt
  apply List.find?_congr
  intro tag known
  rw [Bool.eq_iff_iff, List.isPrefixOf_iff_prefix, List.isPrefixOf_iff_prefix]
  exact prefix_append_iff ne opens known

/-- A text that no tag goes on into is scanned on its own. -/
theorem scan_append {rest : List α} (opens : Opens tags rest) (s : List α) :
    scan tags 0 (s ++ rest) = scan tags 0 s ++ scan tags 0 rest := by
  induction length : s.length using Nat.strong_induction_on generalizing s with
  | h n ih =>
      cases s with
      | nil => rfl
      | cons a s =>
          have same := tagAt_append (List.cons_ne_nil a s) opens
          rw [List.cons_append] at same ⊢
          rw [scan, scan, same]
          rw [List.length_cons] at length
          cases found : tagAt tags (a :: s) with
          | none => simp only [ih s.length (by omega) s rfl, List.cons_append]
          | some tag =>
              have inside := (tagAt_some found).2.length_le
              rw [List.length_cons] at inside
              have short : (s.drop (tag.2.length - 1)).length < n := by
                rw [List.length_drop]
                omega
              simp only [List.cons_append]
              rw [scan_drop, List.drop_append_of_le_length (by omega), ih _ short _ rfl,
                scan_drop (tag.2.length - 1) s]

theorem Clean.tagAt {s : List α} (clean : Clean tags s) : tagAt tags s = none := by
  cases found : Markup.tagAt tags s with
  | none => rfl
  | some tag => exact absurd (tagAt_some found).2.isInfix (clean tag (tagAt_some found).1)

theorem Clean.scan {s : List α} (clean : Clean tags s) : scan tags 0 s = s.map .inr := by
  induction s with
  | nil => rfl
  | cons a s ih =>
      rw [Markup.scan, clean.tagAt]
      simp only [ih clean.tail, List.map_cons]

/-! ## Counting tags -/

def count (tags : Tags α) (s : List α) : Nat := (scan tags 0 s).countP Sum.isLeft

theorem count_append {rest : List α} (opens : Opens tags rest) (s : List α) :
    count tags (s ++ rest) = count tags s + count tags rest := by
  unfold count
  rw [scan_append opens, List.countP_append]

theorem count_tag {tag : Mark × List α} (known : tag ∈ tags.all) (rest : List α) :
    count tags (tag.2 ++ rest) = count tags rest + 1 := by
  unfold count
  rw [scan_tag known, List.countP_cons_of_pos rfl]

theorem Clean.count {s : List α} (clean : Clean tags s) : count tags s = 0 := by
  unfold Markup.count
  rw [clean.scan, List.countP_eq_zero]
  intro token member
  obtain ⟨a, _, rfl⟩ := List.mem_map.mp member
  simp

theorem clean_of_count {s : List α} (none : count tags s = 0) : Clean tags s := by
  induction s with
  | nil =>
      intro tag known inside
      obtain ⟨rest, shape, _⟩ := tags.begins tag known
      rw [List.infix_nil.mp inside] at shape
      cases shape
  | cons a s ih =>
      intro tag known inside
      unfold count at none
      rw [scan] at none
      cases found : tagAt tags (a :: s) with
      | some other =>
          rw [found] at none
          simp at none
      | none =>
          rw [found] at none
          rcases List.infix_cons_iff.mp inside with first | later
          · exact absurd (List.isPrefixOf_iff_prefix.mpr first)
              (List.find?_eq_none.mp found tag known)
          · refine ih ?_ tag known later
            simpa [count] using none

theorem Clean.append {s rest : List α} (first : Clean tags s) (last : Clean tags rest)
    (opens : Opens tags rest) : Clean tags (s ++ rest) := by
  apply clean_of_count
  rw [count_append opens, first.count, last.count]

theorem count_eq_zero_iff {s : List α} : count tags s = 0 ↔ Clean tags s :=
  ⟨clean_of_count, Clean.count⟩

end Scan

/-! ## Reading -/

/-- Rows of cells. -/
abbrev Table (α : Type u) := List (List (List α))

/-- What has been read: the tables that are complete, and of the open ones what
is complete in them. -/
inductive Reading (α : Type u) where
  | outside (tables : List (Table α))
  | inTable (tables : List (Table α)) (rows : Table α)
  | inRow (tables : List (Table α)) (rows : Table α) (cells : List (List α))
  | inCell (tables : List (Table α)) (rows : Table α) (cells : List (List α)) (text : List α)

/-- Letters count in a cell only, and a tag only where it belongs. -/
def step : Reading α → Mark ⊕ α → Option (Reading α)
  | .inCell tables rows cells text, .inr a => some (.inCell tables rows cells (text ++ [a]))
  | reading, .inr _ => some reading
  | .outside tables, .inl .openTable => some (.inTable tables [])
  | .inTable tables rows, .inl .closeTable => some (.outside (tables ++ [rows]))
  | .inTable tables rows, .inl .openRow => some (.inRow tables rows [])
  | .inRow tables rows cells, .inl .closeRow => some (.inTable tables (rows ++ [cells]))
  | .inRow tables rows cells, .inl .openCell => some (.inCell tables rows cells [])
  | .inCell tables rows cells text, .inl .closeCell => some (.inRow tables rows (cells ++ [text]))
  | _, .inl _ => none

def Reading.tables : Reading α → Option (List (Table α))
  | .outside tables => some tables
  | _ => none

def read [DecidableEq α] (tags : Tags α) (s : List α) : Option (List (Table α)) :=
  (scan tags 0 s).foldlM step (.outside []) >>= Reading.tables

/-- Letters outside of a cell are passed over. -/
theorem step_letters (text : List α) (tables : List (Table α)) :
    (text.map Sum.inr).foldlM step (.outside tables) = some (.outside tables) := by
  induction text with
  | nil => rfl
  | cons a text ih => exact ih

theorem step_content (content : List α) (tables : List (Table α)) (rows : Table α)
    (cells : List (List α)) : ∀ text : List α,
    (content.map Sum.inr).foldlM step (.inCell tables rows cells text) =
      some (.inCell tables rows cells (text ++ content)) := by
  induction content with
  | nil => intro text; simp
  | cons a content ih =>
      intro text
      rw [List.map_cons, List.foldlM_cons]
      have next := ih (text ++ [a])
      rw [List.append_assoc] at next
      exact next

section Weight

/-- The tags a row is written with. -/
def rowWeight (cells : List (List α)) : Nat := 2 * cells.length + 2

def tableWeight (rows : Table α) : Nat := (rows.map rowWeight).sum + 2

def weight (tables : List (Table α)) : Nat := (tables.map tableWeight).sum

/-- The tags that have been read. -/
def Reading.weight : Reading α → Nat
  | .outside tables => Markup.weight tables
  | .inTable tables rows => Markup.weight tables + (rows.map rowWeight).sum + 1
  | .inRow tables rows cells =>
      Markup.weight tables + (rows.map rowWeight).sum + 2 * cells.length + 2
  | .inCell tables rows cells _ =>
      Markup.weight tables + (rows.map rowWeight).sum + 2 * cells.length + 3

theorem step_weight {reading next : Reading α} {token : Mark ⊕ α}
    (done : step reading token = some next) :
    next.weight = reading.weight + if token.isLeft then 1 else 0 := by
  cases token with
  | inr a =>
      cases reading <;> cases done <;> rfl
  | inl mark =>
      cases reading <;> cases mark <;> cases done <;>
        simp [Reading.weight, Markup.weight, tableWeight, rowWeight] <;> omega

theorem run_weight (tokens : List (Mark ⊕ α)) :
    ∀ {reading last : Reading α}, tokens.foldlM step reading = some last →
      last.weight = reading.weight + tokens.countP Sum.isLeft := by
  induction tokens with
  | nil =>
      intro reading last done
      cases done
      rfl
  | cons token tokens ih =>
      intro reading last done
      rw [List.foldlM_cons] at done
      obtain ⟨next, first, rest⟩ := Option.bind_eq_some_iff.mp done
      rw [ih rest, step_weight first, List.countP_cons]
      omega

theorem count_of_read [DecidableEq α] {tags : Tags α} {s : List α} {tables : List (Table α)}
    (done : read tags s = some tables) : count tags s = weight tables := by
  obtain ⟨last, run, outside⟩ := Option.bind_eq_some_iff.mp done
  have weighed := run_weight _ run
  cases last with
  | outside tables' =>
      cases outside
      simpa [Reading.weight, weight, count] using weighed.symm
  | _ => cases outside

end Weight

/-! ## Rendering -/

abbrev TagText (tags : Tags α) (mark : Mark) : Type u :=
  { text : List α // (mark, text) ∈ tags.all }

structure CellText (tags : Tags α) where
  opening : TagText tags .openCell
  content : List α
  closing : TagText tags .closeCell

structure RowText (tags : Tags α) where
  opening : TagText tags .openRow
  cells : List (CellText tags)
  closing : TagText tags .closeRow

structure TableText (tags : Tags α) where
  opening : TagText tags .openTable
  rows : List (RowText tags)
  closing : TagText tags .closeTable

/-- A table, or a text without tags. -/
inductive Block (tags : Tags α) where
  | plain (text : List α) (clean : Clean tags text) (opens : Opens tags text)
  | table (grid : TableText tags)

section Render
variable {tags : Tags α}

def CellText.render (cell : CellText tags) : List α :=
  cell.opening.1 ++ (cell.content ++ cell.closing.1)

def RowText.render (row : RowText tags) : List α :=
  row.opening.1 ++ (row.cells.flatMap CellText.render ++ row.closing.1)

def TableText.render (table : TableText tags) : List α :=
  table.opening.1 ++ (table.rows.flatMap RowText.render ++ table.closing.1)

def Block.render : Block tags → List α
  | .plain text _ _ => text
  | .table grid => grid.render

def RowText.contents (row : RowText tags) : List (List α) := row.cells.map CellText.content

def TableText.contents (table : TableText tags) : Table α := table.rows.map RowText.contents

def Block.contents : Block tags → List (Table α)
  | .plain _ _ _ => []
  | .table grid => [grid.contents]

theorem opens_tag {tag : Mark × List α} (known : tag ∈ tags.all) (rest : List α) :
    Opens tags (tag.2 ++ rest) := by
  obtain ⟨tail, shape, _⟩ := tags.begins tag known
  intro a first
  rw [shape] at first
  exact (Option.some.inj first).symm

/-! ## Reading back -/

def run [DecidableEq α] (tags : Tags α) (reading : Reading α) (s : List α) : Option (Reading α) :=
  (scan tags 0 s).foldlM step reading

variable [DecidableEq α]

theorem run_tag {tag : Mark × List α} (known : tag ∈ tags.all) (reading : Reading α)
    (rest : List α) :
    run tags reading (tag.2 ++ rest) = (step reading (.inl tag.1)).bind fun next =>
      run tags next rest := by
  unfold run
  rw [scan_tag known]
  rfl

theorem run_text {text rest : List α} (clean : Clean tags text) (opens : Opens tags rest)
    (reading : Reading α) :
    run tags reading (text ++ rest) =
      ((text.map Sum.inr).foldlM step reading).bind fun next => run tags next rest := by
  unfold run
  rw [scan_append opens, clean.scan, List.foldlM_append]
  rfl

theorem run_cell {cell : CellText tags} (clean : Clean tags cell.content)
    (tables : List (Table α)) (rows : Table α) (cells : List (List α)) (rest : List α) :
    run tags (.inRow tables rows cells) (cell.render ++ rest) =
      run tags (.inRow tables rows (cells ++ [cell.content])) rest := by
  unfold CellText.render
  rw [List.append_assoc, List.append_assoc, run_tag cell.opening.2]
  simp only [step, Option.bind_some]
  rw [run_text clean (opens_tag cell.closing.2 rest), step_content, Option.bind_some,
    List.nil_append, run_tag cell.closing.2]
  rfl

theorem run_cells (row : List (CellText tags)) (tables : List (Table α)) (rows : Table α)
    (rest : List α) : (∀ cell ∈ row, Clean tags cell.content) → ∀ cells : List (List α),
    run tags (.inRow tables rows cells) (row.flatMap CellText.render ++ rest) =
      run tags (.inRow tables rows (cells ++ row.map CellText.content)) rest := by
  induction row with
  | nil => intro _ cells; simp
  | cons cell row ih =>
      intro clean cells
      rw [List.flatMap_cons, List.append_assoc, run_cell (clean cell List.mem_cons_self),
        ih fun cell member => clean cell (List.mem_cons_of_mem _ member)]
      simp

theorem run_row {row : RowText tags} (clean : ∀ cell ∈ row.cells, Clean tags cell.content)
    (tables : List (Table α)) (rows : Table α) (rest : List α) :
    run tags (.inTable tables rows) (row.render ++ rest) =
      run tags (.inTable tables (rows ++ [row.contents])) rest := by
  unfold RowText.render
  rw [List.append_assoc, List.append_assoc, run_tag row.opening.2]
  simp only [step, Option.bind_some]
  rw [run_cells row.cells tables rows _ clean, run_tag row.closing.2]
  rfl

theorem run_rows (grid : List (RowText tags)) (tables : List (Table α)) (rest : List α) :
    (∀ row ∈ grid, ∀ cell ∈ row.cells, Clean tags cell.content) → ∀ rows : Table α,
    run tags (.inTable tables rows) (grid.flatMap RowText.render ++ rest) =
      run tags (.inTable tables (rows ++ grid.map RowText.contents)) rest := by
  induction grid with
  | nil => intro _ rows; simp
  | cons row grid ih =>
      intro clean rows
      rw [List.flatMap_cons, List.append_assoc, run_row (clean row List.mem_cons_self),
        ih fun row member => clean row (List.mem_cons_of_mem _ member)]
      simp

theorem run_table {grid : TableText tags}
    (clean : ∀ row ∈ grid.rows, ∀ cell ∈ row.cells, Clean tags cell.content)
    (tables : List (Table α)) (rest : List α) :
    run tags (.outside tables) (grid.render ++ rest) =
      run tags (.outside (tables ++ [grid.contents])) rest := by
  unfold TableText.render
  rw [List.append_assoc, List.append_assoc, run_tag grid.opening.2]
  simp only [step, Option.bind_some]
  rw [run_rows grid.rows tables _ clean, run_tag grid.closing.2]
  rfl

/-! ## Blocks -/

omit [DecidableEq α] in
theorem Opens.append {s rest : List α} (first : Opens tags s) (last : Opens tags rest) :
    Opens tags (s ++ rest) := by
  cases s with
  | nil => exact last
  | cons a s => exact first

omit [DecidableEq α] in
theorem opens_render (blocks : List (Block tags)) : Opens tags (blocks.flatMap Block.render) := by
  induction blocks with
  | nil =>
      intro a first
      cases first
  | cons block blocks ih =>
      rw [List.flatMap_cons]
      cases block with
      | plain text clean opens => exact opens.append ih
      | table grid =>
          simp only [Block.render, TableText.render, List.append_assoc]
          exact opens_tag grid.opening.2 _

def cellsOf (tables : List (Table α)) : List (List α) := tables.flatten.flatten

omit [DecidableEq α] in
theorem forall_cellsOf {tables : List (Table α)} {p : List α → Prop} :
    (∀ content ∈ cellsOf tables, p content) ↔
      ∀ rows ∈ tables, ∀ cells ∈ rows, ∀ content ∈ cells, p content := by
  unfold cellsOf
  simp only [List.forall_mem_flatten]

theorem run_blocks (blocks : List (Block tags)) :
    ∀ tables : List (Table α),
      (∀ content ∈ cellsOf (blocks.flatMap Block.contents), Clean tags content) →
      run tags (.outside tables) (blocks.flatMap Block.render) =
        some (.outside (tables ++ blocks.flatMap Block.contents)) := by
  induction blocks with
  | nil =>
      intro tables _
      simp [run, scan]
  | cons block blocks ih =>
      intro tables clean
      rw [List.flatMap_cons, List.flatMap_cons]
      cases block with
      | plain text free opens =>
          simp only [Block.render, Block.contents, List.nil_append]
          rw [run_text free (opens_render blocks), step_letters, Option.bind_some]
          exact ih tables clean
      | table grid =>
          have cells : ∀ row ∈ grid.rows, ∀ cell ∈ row.cells, Clean tags cell.content := by
            intro row inGrid cell inRow
            apply clean
            refine List.mem_flatten.mpr ⟨row.contents, ?_, List.mem_map_of_mem inRow⟩
            exact List.mem_flatten.mpr ⟨grid.contents, by simp [Block.contents],
              List.mem_map_of_mem inGrid⟩
          have later : ∀ content ∈ cellsOf (blocks.flatMap Block.contents), Clean tags content := by
            intro content member
            apply clean
            unfold cellsOf at member ⊢
            rw [List.flatMap_cons, List.flatten_append, List.flatten_append]
            exact List.mem_append_right _ member
          simp only [Block.render, Block.contents]
          rw [run_table cells, ih _ later, List.append_assoc]

theorem count_cells (row : List (CellText tags)) (rest : List α) :
    count tags (row.flatMap CellText.render ++ rest) =
      ((row.map CellText.content).map (count tags)).sum + 2 * row.length + count tags rest := by
  induction row with
  | nil => simp
  | cons cell row ih =>
      rw [List.flatMap_cons, CellText.render]
      simp only [List.append_assoc]
      rw [count_tag cell.opening.2, count_append (opens_tag cell.closing.2 _),
        count_tag cell.closing.2, ih]
      simp only [List.map_cons, List.sum_cons, List.length_cons]
      omega

theorem count_rows (grid : List (RowText tags)) (rest : List α) :
    count tags (grid.flatMap RowText.render ++ rest) =
      ((grid.map RowText.contents).flatten.map (count tags)).sum +
        ((grid.map RowText.contents).map rowWeight).sum + count tags rest := by
  induction grid with
  | nil => simp
  | cons row grid ih =>
      rw [List.flatMap_cons, RowText.render]
      simp only [List.append_assoc]
      rw [count_tag row.opening.2, count_cells, count_tag row.closing.2, ih]
      simp only [List.map_cons, List.flatten_cons, List.map_append, List.sum_append, List.sum_cons,
        rowWeight, RowText.contents, List.length_map]
      omega

/-- The tags of a rendered text: those of its tables, and those in its cells. -/
theorem count_blocks (blocks : List (Block tags)) :
    count tags (blocks.flatMap Block.render) =
      ((cellsOf (blocks.flatMap Block.contents)).map (count tags)).sum +
        weight (blocks.flatMap Block.contents) := by
  induction blocks with
  | nil => rfl
  | cons block blocks ih =>
      rw [List.flatMap_cons, List.flatMap_cons]
      cases block with
      | plain text clean opens =>
          simp only [Block.render, Block.contents, List.nil_append]
          rw [count_append (opens_render blocks), clean.count, ih, Nat.zero_add]
      | table grid =>
          simp only [Block.render, Block.contents, TableText.render, List.append_assoc]
          rw [count_tag grid.opening.2, count_rows, count_tag grid.closing.2, ih]
          simp only [cellsOf, weight, tableWeight, TableText.contents, List.cons_append,
            List.nil_append, List.flatten_cons, List.flatten_append, List.map_cons, List.map_append,
            List.sum_append, List.sum_cons]
          omega

/-- What was rendered is read back exactly when no cell holds a tag. -/
theorem read_render_iff (blocks : List (Block tags)) :
    read tags (blocks.flatMap Block.render) = some (blocks.flatMap Block.contents) ↔
      ∀ content ∈ cellsOf (blocks.flatMap Block.contents), Clean tags content := by
  constructor
  · intro done content member
    have total := count_of_read done
    rw [count_blocks] at total
    have none : ((cellsOf (blocks.flatMap Block.contents)).map (count tags)).sum = 0 := by omega
    exact count_eq_zero_iff.mp
      (List.sum_eq_zero_iff_forall_eq_nat.mp none _ (List.mem_map_of_mem member))
  · intro clean
    have done := run_blocks blocks [] clean
    unfold run at done
    unfold read
    rw [done]
    rfl

end Render

end Markup
