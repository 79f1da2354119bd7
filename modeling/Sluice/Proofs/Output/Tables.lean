import Mathlib.Data.List.Forall2
import Mathlib.Order.Bounds.Basic
import Sluice.Output.Table
import Sluice.Proofs.Text.Columns
import Sluice.Proofs.Text.Pieces

/-!
# Tables in lines

A drawn table is a box: a rule, the headers, a rule, a line for each row, and a rule. Cells hold no
line breaks, so the lines are found again in the text, and all have the same width, since every cell
is filled up to the width of its column and a space follows: what stands in a cell joins nothing
outside of it.

* `cellOf_fit` : what stands in a cell for a text;
* `Table.isGreatest_widths` : a column is as wide as its widest cell;
* `Table.boxed_draw` : the lines of a drawn table, one for each row of the table that was given.
-/

namespace Sluice

open Text (joinChars splitAll)
open Text.Width (Fills drawsBoxes ofChars own ownSum)

/-! ## Cells on one line -/

theorem clip_cons (room : Nat) (c : Char) (cs : List Char) :
    clip room (c :: cs) = if room < own c then [] else c :: clip (room - own c) cs :=
  rfl

/-- As much is kept as there is room for the characters by themselves, and no less. -/
theorem clip_longest (room : Nat) (cs : List Char) :
    ∃ rest, cs = clip room cs ++ rest ∧ ownSum (clip room cs) ≤ room ∧
      ∀ c ∈ rest.head?, room < ownSum (clip room cs) + own c := by
  induction cs generalizing room with
  | nil => exact ⟨[], rfl, Nat.zero_le room, nofun⟩
  | cons c cs ih =>
      rw [clip_cons]
      split
      · next hfull =>
        refine ⟨c :: cs, rfl, Nat.zero_le room, fun d hd => ?_⟩
        cases hd
        rwa [ownSum, Nat.zero_add]
      · next hroom =>
        obtain ⟨rest, hcs, hsum, hrest⟩ := ih (room - own c)
        refine ⟨rest, congrArg (c :: ·) hcs, ?_, fun d hd => ?_⟩
        · rw [ownSum]
          omega
        · have hlt := hrest d hd
          rw [ownSum]
          omega

/-- On one line a line break or a tab is a space, and any other character is as it was. -/
inductive OnLine : Char → Char → Prop where
  | blank {c : Char} (h : c = '\n' ∨ c = '\r' ∨ c = '\t') : OnLine c ' '
  | same {c : Char} (h : ¬ (c = '\n' ∨ c = '\r' ∨ c = '\t')) : OnLine c c

/-- What stands in a cell for a text. On one line the text is whole, if it takes no more than the
greatest number of columns. Else its longest beginning is there whose characters by themselves leave
a column for the ellipsis. -/
inductive CellOf (max : Nat) (text : String) : String → Prop where
  | whole {line : List Char} (hline : List.Forall₂ OnLine text.toList line)
      (hfits : ofChars line ≤ max) : CellOf max text (String.ofList line)
  | clipped {kept rest : List Char} (hline : List.Forall₂ OnLine text.toList (kept ++ rest))
      (hwide : max < ofChars (kept ++ rest)) (hroom : ownSum kept + 1 ≤ max)
      (hfull : ∀ c ∈ rest.head?, max < ownSum kept + own c + 1) :
      CellOf max text (String.ofList (kept ++ ['…']))

theorem forall₂_oneLine (text : String) : List.Forall₂ OnLine text.toList (oneLine text) := by
  unfold oneLine
  rw [List.forall₂_map_right_iff, List.forall₂_same]
  intro c _
  split
  · next h => exact .blank (by simpa [or_assoc] using h)
  · next h => exact .same (by simpa [or_assoc] using h)

theorem cellOf_fit {max : Nat} (hmax : 1 ≤ max) (text : String) :
    CellOf max text (fit max text) := by
  have hline := forall₂_oneLine text
  unfold fit
  dsimp only
  split
  · next hfits => exact .whole hline hfits
  · next hwide =>
    obtain ⟨rest, hrest, hroom, hfull⟩ := clip_longest (max - 1) (oneLine text)
    rw [hrest] at hline hwide
    refine .clipped hline (Nat.lt_of_not_le hwide) (by omega) fun c hc => ?_
    have hlt := hfull c hc
    omega

theorem OnLine.ne_newline {c d : Char} (h : OnLine c d) : d ≠ '\n' := by
  cases h with
  | blank _ => decide
  | same h => exact fun heq => h (.inl heq)

theorem newline_not_mem_of_onLine {cs line : List Char} (h : List.Forall₂ OnLine cs line) :
    '\n' ∉ line := by
  induction h with
  | nil => exact List.not_mem_nil
  | cons hc _ ih =>
      rw [List.mem_cons, not_or]
      exact ⟨hc.ne_newline.symm, ih⟩

theorem CellOf.unbroken {max : Nat} {text cell : String} (h : CellOf max text cell) :
    '\n' ∉ cell.toList := by
  cases h with
  | whole hline _ =>
      rw [String.toList_ofList]
      exact newline_not_mem_of_onLine hline
  | clipped hline _ _ _ =>
      have hnot := newline_not_mem_of_onLine hline
      rw [List.mem_append, not_or] at hnot
      rw [String.toList_ofList, List.mem_append, not_or]
      exact ⟨hnot.1, by decide⟩

namespace Table

/-! ## Columns -/

def column (t : Table) (i : Nat) : List String :=
  (t.headers :: t.rows).filterMap (·[i]?)

theorem exists_of_mem_column {t : Table} {i : Nat} {cell : String} (h : cell ∈ t.column i) :
    ∃ row ∈ t.headers :: t.rows, cell ∈ row := by
  obtain ⟨row, hrow, hcell⟩ := List.mem_filterMap.1 h
  exact ⟨row, hrow, List.mem_of_getElem? hcell⟩

theorem exists_of_mem_fitted {t : Table} {max : Nat} {row : List String} {cell : String}
    (hrow : row ∈ (t.fitted max).headers :: (t.fitted max).rows) (hcell : cell ∈ row) :
    ∃ whole ∈ t.headers :: t.rows, ∃ text ∈ whole, cell = fit max text := by
  rcases List.mem_cons.1 hrow with rfl | hrow
  · obtain ⟨text, htext, rfl⟩ := List.mem_map.1 hcell
    exact ⟨t.headers, List.mem_cons_self .., text, htext, rfl⟩
  · obtain ⟨whole, hwhole, rfl⟩ := List.mem_map.1 hrow
    obtain ⟨text, htext, rfl⟩ := List.mem_map.1 hcell
    exact ⟨whole, .tail _ hwhole, text, htext, rfl⟩

theorem getElem?_widen (ws : List Nat) (cells : List String) (i : Nat) :
    (widen ws cells)[i]? = ws[i]?.map fun w => cells[i]?.elim w fun cell => max w (Text.width cell) := by
  fun_induction widen ws cells generalizing i with
  | case1 w ws cell cells ih =>
      cases i with
      | zero => rfl
      | succ i => exact ih i
  | case2 ws cells hne =>
      cases ws with
      | nil => rfl
      | cons w ws =>
          cases cells with
          | nil => simp
          | cons cell cells => exact absurd rfl (hne w ws cell cells rfl)

theorem getElem?_foldl_widen (rows : List (List String)) (ws : List Nat) (i : Nat) :
    (rows.foldl widen ws)[i]? =
      ws[i]?.map fun w => ((rows.filterMap (·[i]?)).map Text.width).foldl max w := by
  induction rows generalizing ws with
  | nil => simp
  | cons row rows ih =>
      rw [List.foldl_cons, ih, getElem?_widen, Option.map_map, List.filterMap_cons]
      congr 1
      funext w
      cases row[i]? with
      | none => rfl
      | some cell => rfl

theorem length_widths (t : Table) : t.widths.length = t.headers.length := by
  have hlength : ∀ i, t.widths.length ≤ i ↔ t.headers.length ≤ i := by
    intro i
    rw [← List.getElem?_eq_none_iff, widths, getElem?_foldl_widen, Option.map_eq_none_iff,
      List.getElem?_eq_none_iff, List.length_map]
  have hle := (hlength t.headers.length).2 (Nat.le_refl _)
  have hge := (hlength t.widths.length).1 (Nat.le_refl _)
  omega

/-- A column is as wide as its widest cell. -/
theorem isGreatest_widths {t : Table} {i w : Nat} (h : t.widths[i]? = some w) :
    IsGreatest {n | ∃ cell ∈ t.column i, Text.width cell = n} w := by
  rw [widths, getElem?_foldl_widen, List.getElem?_map] at h
  cases hheader : t.headers[i]? with
  | none =>
      rw [hheader] at h
      cases h
  | some header =>
      have hcolumn : t.column i = header :: t.rows.filterMap (·[i]?) := by
        rw [column, List.filterMap_cons, hheader]
      rw [hheader, Option.map_some, Option.map_some, Option.some.injEq] at h
      have hmax : ((t.column i).map Text.width).max? = some w := by
        rw [hcolumn, List.map_cons, List.max?_cons', h]
      rw [List.max?_eq_some_iff] at hmax
      refine ⟨List.mem_map.1 hmax.1, ?_⟩
      rintro n ⟨cell, hcell, rfl⟩
      exact hmax.2 _ (List.mem_map_of_mem hcell)

theorem width_le_of_mem_column {t : Table} {i w : Nat} {cell : String} (h : t.widths[i]? = some w)
    (hcell : cell ∈ t.column i) : Text.width cell ≤ w :=
  (isGreatest_widths h).2 ⟨cell, hcell, rfl⟩

/-- A row with a cell for each header fits into the columns. -/
theorem forall₂_widths {t : Table} {row : List String} (hrow : row ∈ t.headers :: t.rows)
    (hlength : row.length = t.headers.length) :
    List.Forall₂ (fun w cell => Text.width cell ≤ w) t.widths row := by
  rw [List.forall₂_iff_get]
  refine ⟨by rw [length_widths, hlength], fun i hi hcell => ?_⟩
  refine width_le_of_mem_column (List.getElem?_eq_getElem hi) ?_
  exact List.mem_filterMap.2 ⟨row, hrow, List.getElem?_eq_getElem hcell⟩

/-! ## Strips of a line -/

/-- A piece of one line: it has no line break, takes some columns, and joins nothing in front of
it. -/
def Strip (n : Nat) (cs : List Char) : Prop :=
  Fills n cs ∧ '\n' ∉ cs

theorem Strip.append {m n : Nat} {cs ds : List Char} (hcs : Strip m cs) (hds : Strip n ds) :
    Strip (m + n) (cs ++ ds) := by
  refine ⟨hcs.1.append hds.1, ?_⟩
  rw [List.mem_append, not_or]
  exact ⟨hcs.2, hds.2⟩

theorem Strip.replicate {c : Char} (h : Strip 1 [c]) (n : Nat) :
    Strip n (List.replicate n c) := by
  refine ⟨h.1.replicate n, fun hmem => h.2 ?_⟩
  rw [List.eq_of_mem_replicate hmem]
  exact List.mem_singleton_self c

theorem strip_drawsBoxes {c : Char} (h : drawsBoxes c = true) : Strip 1 [c] := by
  refine ⟨Text.Width.fills_drawsBoxes h, fun hmem => ?_⟩
  rw [← List.mem_singleton.1 hmem] at h
  exact absurd h (by decide)

/-! ## Lines -/

/-- Blocks in a frame, with a mark between neighbours. -/
def framed (left mid right : Char) (blocks : List (List Char)) : List Char :=
  left :: (joinChars [mid] blocks ++ [right])

/-- The cells of a row in columns of some widths: each is filled up with spaces, and has one more
space on both sides. -/
inductive Blocks : List Nat → List String → List (List Char) → Prop where
  | nil : Blocks [] [] []
  | cons {cell : String} {filling w : Nat} {ws : List Nat} {cells : List String}
      {blocks : List (List Char)} (hwidth : Text.width cell + filling = w)
      (hrest : Blocks ws cells blocks) :
      Blocks (w :: ws) (cell :: cells)
        ((' ' :: (cell.toList ++ List.replicate filling ' ' ++ [' '])) :: blocks)

/-- A line with the cells of a row in columns of some widths. -/
def Shows (ws : List Nat) (cells : List String) (line : List Char) : Prop :=
  ∃ blocks, Blocks ws cells blocks ∧ line = framed '│' '│' '│' blocks

/-- The horizontal lines over columns of some widths. -/
def dashes (ws : List Nat) : List (List Char) :=
  ws.map fun w => List.replicate (w + 2) '─'

/-- The columns that a line has behind the mark at its beginning: those of each cell with two for its
margins and one for the mark behind it. Behind no cells there is a mark still. -/
def innerWidth : List Nat → Nat
  | [] => 1
  | [w] => w + 3
  | w :: ws => w + 3 + innerWidth ws

/-- The columns of a line with cells of some widths. -/
def lineWidth (ws : List Nat) : Nat :=
  1 + innerWidth ws

theorem strip_framed {left mid right : Char} (hmarks : [left, mid, right].all drawsBoxes = true)
    {ws : List Nat} {blocks : List (List Char)}
    (h : List.Forall₂ (fun w block => Strip (w + 2) block) ws blocks) :
    Strip (lineWidth ws) (framed left mid right blocks) := by
  have hmark : ∀ c ∈ [left, mid, right], Strip 1 [c] :=
    fun c hc => strip_drawsBoxes (List.all_eq_true.1 hmarks c hc)
  have hleft : Strip 1 [left] := hmark left (by simp)
  have hmid : Strip 1 [mid] := hmark mid (by simp)
  have hright : Strip 1 [right] := hmark right (by simp)
  refine hleft.append (n := innerWidth ws) ?_
  induction h with
  | nil => exact hright
  | @cons w block ws blocks hblock hrest ih =>
      cases hrest with
      | nil => exact hblock.append hright
      | @cons v next vs rest _ _ =>
          show Strip _ (block ++ [mid] ++ joinChars [mid] (next :: rest) ++ [right])
          rw [List.append_assoc]
          exact (hblock.append hmid).append ih

theorem forall₂_strip_dashes (ws : List Nat) :
    List.Forall₂ (fun w block => Strip (w + 2) block) ws (dashes ws) := by
  unfold dashes
  rw [List.forall₂_map_right_iff, List.forall₂_same]
  intro w _
  exact Strip.replicate (strip_drawsBoxes (by decide)) (w + 2)

theorem Blocks.forall₂_strip {ws : List Nat} {cells : List String} {blocks : List (List Char)}
    (h : Blocks ws cells blocks) (hcells : ∀ cell ∈ cells, '\n' ∉ cell.toList) :
    List.Forall₂ (fun w block => Strip (w + 2) block) ws blocks := by
  induction h with
  | nil => exact .nil
  | @cons cell filling w ws cells blocks hwidth _ ih =>
      have hcell := hcells cell (List.mem_cons_self ..)
      refine .cons ⟨?_, ?_⟩ (ih fun cell' hmem => hcells cell' (.tail cell hmem))
      · -- the spaces behind the cell keep what is in it from what stands behind it
        have hmargin : Fills (filling + 1) (List.replicate filling ' ' ++ [' ']) :=
          (Text.Width.fills_spaces filling).append (Text.Width.fills_spaces 1)
        have hfills := Text.Width.fills_space_cons
          (cell.toList ++ (List.replicate filling ' ' ++ [' ']))
        rw [Text.Width.ofChars_append hmargin, ← List.append_assoc] at hfills
        have hsum : ofChars cell.toList + (filling + 1) + 1 = w + 2 := by
          rw [← hwidth, Text.width]
          omega
        rwa [hsum] at hfills
      · simp [hcell, List.mem_replicate]

theorem Shows.strip {ws : List Nat} {cells : List String} {line : List Char}
    (h : Shows ws cells line) (hcells : ∀ cell ∈ cells, '\n' ∉ cell.toList) :
    Strip (lineWidth ws) line := by
  obtain ⟨blocks, hblocks, rfl⟩ := h
  exact strip_framed (by decide) (hblocks.forall₂_strip hcells)

/-- A row that fits into the columns is shown. -/
theorem shows_textLine {ws : List Nat} {cells : List String}
    (h : List.Forall₂ (fun w cell => Text.width cell ≤ w) ws cells) :
    Shows ws cells (textLine ws cells) := by
  refine ⟨paddedRow ws cells, ?_, rfl⟩
  induction h with
  | nil => exact .nil
  | cons hle _ ih => exact .cons (Nat.add_sub_cancel' hle) ih

/-! ## Whole tables -/

/-- The second table has the cells for the texts of the first, header for header and row for row. -/
structure CellsOf (max : Nat) (t cells : Table) : Prop where
  headers : List.Forall₂ (CellOf max) t.headers cells.headers
  rows : List.Forall₂ (List.Forall₂ (CellOf max)) t.rows cells.rows

/-- The lines of a box around a table: a rule, the headers, a rule, one line for each row and a last
rule. A column for each header is as wide as its widest cell, and each line as all columns
together. -/
structure Boxed (max : Nat) (t cells : Table) (ws : List Nat) (lines : List (List Char)) : Prop where
  count : lines.length = t.rows.length + 4
  texts : CellsOf max t cells
  columns : ws.length = t.headers.length ∧
    ∀ i w, ws[i]? = some w → IsGreatest {n | ∃ cell ∈ cells.column i, Text.width cell = n} w
  drawn : ∃ header body,
    lines = framed '┌' '┬' '┐' (dashes ws) :: header :: framed '├' '┼' '┤' (dashes ws) ::
      (body ++ [framed '└' '┴' '┘' (dashes ws)]) ∧
    Shows ws cells.headers header ∧ List.Forall₂ (Shows ws) cells.rows body
  level : ∀ line ∈ lines, ofChars line = lineWidth ws

theorem cellsOf_fitted {max : Nat} (hmax : 1 ≤ max) (t : Table) : CellsOf max t (t.fitted max) := by
  have hrow : ∀ row : List String, List.Forall₂ (CellOf max) row (row.map (fit max)) := by
    intro row
    rw [List.forall₂_map_right_iff, List.forall₂_same]
    exact fun text _ => cellOf_fit hmax text
  refine ⟨hrow t.headers, ?_⟩
  show List.Forall₂ _ t.rows (t.rows.map fun row => row.map (fit max))
  rw [List.forall₂_map_right_iff, List.forall₂_same]
  exact fun row _ => hrow row

/-- Each row has a cell for each header, and no cell has a line break. -/
structure Regular (t : Table) : Prop where
  complete : ∀ row ∈ t.rows, row.length = t.headers.length
  unbroken : ∀ row ∈ t.headers :: t.rows, ∀ cell ∈ row, '\n' ∉ cell.toList

theorem Regular.fitted {t : Table} (h : ∀ row ∈ t.rows, row.length = t.headers.length)
    {max : Nat} (hmax : 1 ≤ max) : (t.fitted max).Regular := by
  constructor
  · intro cut hcut
    obtain ⟨row, hrow, rfl⟩ := List.mem_map.1 hcut
    show (row.map (fit max)).length = (t.headers.map (fit max)).length
    rw [List.length_map, List.length_map, h row hrow]
  · intro row hrow cell hcell
    obtain ⟨_, _, text, _, rfl⟩ := exists_of_mem_fitted hrow hcell
    exact (cellOf_fit hmax text).unbroken

section Regular

variable {t : Table}

theorem Regular.shows (h : t.Regular) {row : List String} (hrow : row ∈ t.headers :: t.rows) :
    Shows t.widths row (textLine t.widths row) := by
  refine shows_textLine (forall₂_widths hrow ?_)
  rcases List.mem_cons.1 hrow with rfl | hrow
  · rfl
  · exact h.complete row hrow

theorem Regular.strip (h : t.Regular) : ∀ line ∈ t.lines, Strip (lineWidth t.widths) line := by
  have htext : ∀ row ∈ t.headers :: t.rows,
      Strip (lineWidth t.widths) (textLine t.widths row) := by
    intro row hrow
    exact (h.shows hrow).strip (h.unbroken row hrow)
  have hrule : ∀ left mid right, [left, mid, right].all drawsBoxes = true →
      Strip (lineWidth t.widths) (rule left mid right t.widths) :=
    fun _ _ _ hmarks => strip_framed hmarks (forall₂_strip_dashes t.widths)
  intro line hline
  unfold lines at hline
  simp only [List.mem_cons, List.mem_append, List.mem_map, List.not_mem_nil, or_false] at hline
  rcases hline with rfl | rfl | rfl | ⟨row, hrow, rfl⟩ | rfl
  · exact hrule '┌' '┬' '┐' (by decide)
  · exact htext t.headers (List.mem_cons_self ..)
  · exact hrule '├' '┼' '┤' (by decide)
  · exact htext row (.tail _ hrow)
  · exact hrule '└' '┴' '┘' (by decide)

/-- The lines of a table of cells are a box around the table that the cells are for. -/
theorem Regular.boxed (h : t.Regular) {max : Nat} {whole : Table} (hcells : CellsOf max whole t) :
    Boxed max whole t t.widths t.lines where
  count := by
    show (t.rows.map (textLine t.widths) ++ [_]).length + 3 = whole.rows.length + 4
    rw [List.length_append, List.length_map, hcells.rows.length_eq]
    rfl
  texts := hcells
  columns := ⟨(length_widths t).trans hcells.headers.length_eq.symm, fun _ _ => isGreatest_widths⟩
  drawn := by
    refine ⟨_, _, rfl, h.shows (List.mem_cons_self ..), ?_⟩
    rw [List.forall₂_map_right_iff, List.forall₂_same]
    intro row hrow
    exact h.shows (.tail _ hrow)
  level line hline := (h.strip line hline).1.ofChars_eq

end Regular

/-- The lines of a drawn table are those of a box around it, in which each text is in its cell. -/
theorem boxed_draw {t : Table} (h : ∀ row ∈ t.rows, row.length = t.headers.length)
    (maxWidth : Nat) :
    ∃ cells ws, Boxed (max maxWidth 1) t cells ws (splitAll '\n' (t.draw maxWidth).toList) := by
  have hmax : 1 ≤ max maxWidth 1 := Nat.le_max_right maxWidth 1
  have hregular := Regular.fitted h hmax
  have hlines : splitAll '\n' (t.draw maxWidth).toList = (t.fitted (max maxWidth 1)).lines := by
    rw [draw, String.toList_ofList]
    apply Text.splitAll_joinChars
    · exact List.cons_ne_nil _ _
    · exact fun line hline => (hregular.strip line hline).2
  rw [hlines]
  exact ⟨_, _, hregular.boxed (cellsOf_fitted hmax t)⟩

/-- Wide texts, a text of two lines and an empty one. -/
def pets : Table :=
  ⟨["id", "名前"], [["1", "日本語"], ["a\nb", ""]]⟩

theorem boxed_draw_pets :
    (∃ cells ws, Boxed 4 pets cells ws (splitAll '\n' (pets.draw 4).toList)) ∧
      pets.draw 4 = "\n".intercalate ["┌─────┬──────┐", "│ id  │ 名前 │", "├─────┼──────┤",
        "│ 1   │ 日…  │", "│ a b │      │", "└─────┴──────┘"] :=
  ⟨boxed_draw (by decide) 4, by decide +kernel⟩

end Table

end Sluice
