import Mathlib.Algebra.Ring.Nat
import Mathlib.Data.List.Basic
import TableShell.Layout

/-!
# Tables are rectangular

A line of a table is made of bodies side by side, each as wide as its column, between marks. So all
lines have the same number of code points, whatever texts the cells hold, and as long as no text
holds a line break the table splits into them.
-/

namespace TableShell.Layout

variable {headers : List String} {rows : List Row} {header : String} {text : List Char}
  {cell : Cell} {w : Nat}

theorem le_foldl_max {l : List Nat} {m n : Nat} (h : n ≤ m ∨ n ∈ l) : n ≤ l.foldl max m := by
  induction l generalizing m with
  | nil => simpa using h
  | cons k l ih =>
    rw [List.foldl_cons]
    apply ih
    rcases h with h | h
    · exact Or.inl (Nat.le_trans h (Nat.le_max_left m k))
    · rcases List.mem_cons.mp h with rfl | h
      · exact Or.inl (Nat.le_max_right m n)
      · exact Or.inr h

/-- The column is as wide as the text of the cell, or as wide as columns get. -/
def Cell.Fits (width : Nat) (cell : Cell) : Prop := min maxWidth cell.text.length ≤ width

theorem fits_header (onRight : Bool) :
    Cell.Fits (columnWidth rows header) ⟨header.toList, onRight⟩ := by
  have hlength : header.toList.length ≤ max 1 header.length := Nat.le_max_right _ _
  refine Nat.le_min.mpr ⟨Nat.min_le_left _ _, ?_⟩
  exact Nat.le_trans (Nat.min_le_right _ _) (le_foldl_max (Or.inl hlength))

theorem fits_of_mem (hcell : cell ∈ cells rows header) :
    cell.Fits (columnWidth rows header) := by
  have hlength := List.mem_map_of_mem (f := fun c : Cell => c.text.length) hcell
  refine Nat.le_min.mpr ⟨Nat.min_le_left _ _, ?_⟩
  exact Nat.le_trans (Nat.min_le_right _ _) (le_foldl_max (Or.inr hlength))

theorem length_truncate (h : text.length ≤ w ∨ 3 ≤ w) :
    (truncate w text).length = min w text.length := by
  unfold truncate
  split_ifs with hle
  · omega
  · rw [List.length_append, List.length_take]
    simp only [List.length_cons, List.length_nil]
    omega

theorem length_fill (h : cell.Fits w) : (fill w cell).length = w := by
  have htext : cell.text.length ≤ w ∨ 3 ≤ w := by
    unfold Cell.Fits maxWidth at h
    omega
  have hlength := length_truncate htext
  unfold fill
  dsimp only
  split_ifs
  · rw [List.length_append, List.length_replicate]
    omega
  · rw [List.length_append, List.length_replicate]
    omega

theorem notMem_fill {c : Char} (hspace : c ≠ ' ') (hdot : c ≠ '.') (hc : c ∉ cell.text) :
    c ∉ fill w cell := by
  have hblanks (k : Nat) : c ∉ List.replicate k ' ' := fun h => hspace (List.eq_of_mem_replicate h)
  have htext : c ∉ truncate w cell.text := by
    unfold truncate
    split_ifs
    · exact hc
    · intro h
      rcases List.mem_append.mp h with h | h
      · exact hc (List.mem_of_mem_take h)
      · simp [hdot] at h
  unfold fill
  dsimp only
  split_ifs
  · exact List.not_mem_append (hblanks _) htext
  · exact List.not_mem_append htext (hblanks _)

def marked (mark : Char) (bodies : List (List Char)) : List Char :=
  mark :: bodies.flatMap (· ++ [mark])

section Marked

variable {mark c : Char} {bodies : List (List Char)}

theorem marked_append (mark : Char) (bodies bodies' : List (List Char)) :
    marked mark (bodies ++ bodies') = marked mark bodies ++ bodies'.flatMap (· ++ [mark]) := by
  rw [marked, marked, List.flatMap_append, List.cons_append]

theorem length_marked (mark : Char) (bodies : List (List Char)) :
    (marked mark bodies).length = 1 + (bodies.map (·.length + 1)).sum := by
  rw [marked, List.length_cons, List.length_flatMap, Nat.add_comm]
  simp only [List.length_append, List.length_singleton]

theorem getLast?_marked (mark : Char) (bodies : List (List Char)) :
    (marked mark bodies).getLast? = some mark := by
  rcases List.eq_nil_or_concat bodies with rfl | ⟨bodies, body, rfl⟩
  · rfl
  · rw [List.concat_eq_append, marked_append, List.flatMap_singleton, ← List.append_assoc,
      List.getLast?_concat]

theorem notMem_marked (hmark : c ≠ mark) (h : ∀ body ∈ bodies, c ∉ body) :
    c ∉ marked mark bodies := by
  refine List.not_mem_cons_of_ne_of_not_mem hmark fun hc => ?_
  obtain ⟨body, hbody, hc⟩ := List.mem_flatMap.mp hc
  rcases List.mem_append.mp hc with hc | hc
  · exact h body hbody hc
  · exact hmark (List.mem_singleton.mp hc)

end Marked

def tableWidth (headers : List String) (rows : List Row) : Nat :=
  1 + (headers.map fun h => columnWidth rows h + 3).sum

def isMark (c : Char) : Bool := c == '+' || c == '|'

/-- The line has this many code points, and the first and the last of them are marks. -/
structure Framed (width : Nat) (piece : List Char) : Prop where
  length_eq : piece.length = width
  head_isMark : ∃ c, piece.head? = some c ∧ isMark c
  getLast_isMark : ∃ c, piece.getLast? = some c ∧ isMark c

/-- No header and no cell below it holds a line break. -/
def Unbroken (headers : List String) (rows : List Row) : Prop :=
  ∀ h ∈ headers, '\n' ∉ h.toList ∧ ∀ cell ∈ cells rows h, '\n' ∉ cell.text

def IsLine (headers : List String) (rows : List Row) (segment : List Char) : Prop :=
  ∃ piece, segment = piece ++ ['\n'] ∧ Framed (tableWidth headers rows) piece ∧
    (Unbroken headers rows → '\n' ∉ piece)

theorem isLine_marked {mark : Char} {body : String → List Char} (hmark : isMark mark)
    (hlength : ∀ h ∈ headers, (body h).length = columnWidth rows h + 2)
    (hbreak : Unbroken headers rows → ∀ h ∈ headers, '\n' ∉ body h) :
    IsLine headers rows (marked mark (headers.map body) ++ ['\n']) := by
  refine ⟨_, rfl, ⟨?_, ⟨mark, rfl, hmark⟩, ⟨mark, getLast?_marked _ _, hmark⟩⟩, fun h => ?_⟩
  · have hbodies : headers.map (fun h => (body h).length + 1) =
        headers.map fun h => columnWidth rows h + 3 :=
      List.map_congr_left fun h hh => by rw [hlength h hh]
    rw [length_marked, List.map_map, tableWidth, ← hbodies]
    rfl
  · have hne : '\n' ≠ mark := by
      rintro rfl
      exact absurd hmark (by decide)
    refine notMem_marked hne fun text htext => ?_
    obtain ⟨header, hheader, rfl⟩ := List.mem_map.mp htext
    exact hbreak h header hheader

theorem rule_eq_marked (widths : List Nat) :
    rule widths = marked '+' (widths.map fun w => List.replicate (w + 2) '-') ++ ['\n'] := by
  rw [rule, marked, List.flatMap_map]

theorem line_eq_marked (widthOf : String → Nat) (f : String → Cell) :
    line (headers.map widthOf) (headers.map f) =
      marked '|' (headers.map fun h => ' ' :: fill (widthOf h) (f h) ++ [' ']) ++ ['\n'] := by
  rw [line, marked, List.zip_map', List.flatMap_map, List.flatMap_map]
  simp only [List.cons_append, List.append_assoc, List.nil_append]

theorem isLine_rule (headers : List String) (rows : List Row) :
    IsLine headers rows (rule (headers.map (columnWidth rows))) := by
  rw [rule_eq_marked, List.map_map]
  refine isLine_marked rfl (fun h _ => List.length_replicate) fun _ h _ hbreak => ?_
  exact absurd (List.eq_of_mem_replicate hbreak) (by decide)

theorem isLine_line {f : String → Cell} (hfits : ∀ h ∈ headers, (f h).Fits (columnWidth rows h))
    (hbreak : Unbroken headers rows → ∀ h ∈ headers, '\n' ∉ (f h).text) :
    IsLine headers rows (line (headers.map (columnWidth rows)) (headers.map f)) := by
  rw [line_eq_marked]
  refine isLine_marked rfl (fun h hh => ?_) fun hunbroken h hh => ?_
  · rw [List.length_append, List.length_cons, length_fill (hfits h hh), List.length_singleton]
  · have hfill : '\n' ∉ fill (columnWidth rows h) (f h) :=
      notMem_fill (by decide) (by decide) (hbreak hunbroken h hh)
    simpa using hfill

theorem isLine_of_mem_segments {segment : List Char} (h : segment ∈ segments headers rows) :
    IsLine headers rows segment := by
  have hheaders : IsLine headers rows
      (line (headers.map (columnWidth rows)) (headers.map fun h => ⟨h.toList, false⟩)) :=
    isLine_line (fun _ _ => fits_header false) fun hunbroken h hh => (hunbroken h hh).1
  have hrow (row : Row) (hrow : row ∈ rows) : IsLine headers rows
      (line (headers.map (columnWidth rows)) (headers.map fun h => .of row[h]?)) := by
    have hmem (h : String) : Cell.of row[h]? ∈ cells rows h := List.mem_map_of_mem hrow
    exact isLine_line (fun h _ => fits_of_mem (hmem h)) fun hunbroken h hh =>
      (hunbroken h hh).2 _ (hmem h)
  simp only [segments, List.mem_append, List.mem_cons, List.not_mem_nil, or_false,
    List.mem_map] at h
  rcases h with ((rfl | rfl | rfl) | ⟨row, hmem, rfl⟩) | rfl
  · exact isLine_rule headers rows
  · exact hheaders
  · exact isLine_rule headers rows
  · exact hrow row hmem
  · exact isLine_rule headers rows

theorem length_segments (headers : List String) (rows : List Row) :
    (segments headers rows).length = rows.length + 4 := by
  rw [segments, List.length_append, List.length_append, List.length_map]
  simp only [List.length_cons, List.length_nil]
  omega

/-- What follows the line breaks of the segments is a piece of its own. -/
theorem splitOn_flatten {d : Char} {segs : List (List Char)} {last : List Char}
    (h : ∀ seg ∈ segs, ∃ piece, seg = piece ++ [d] ∧ d ∉ piece) (hlast : d ∉ last) :
    (segs.flatten ++ last).splitOn d = segs.map List.dropLast ++ [last] := by
  induction segs with
  | nil => exact List.splitOn_eq_singleton hlast
  | cons seg segs ih =>
    rw [List.forall_mem_cons] at h
    obtain ⟨⟨piece, rfl, hpiece⟩, h⟩ := h
    rw [List.flatten_cons, List.append_assoc, List.append_assoc, List.singleton_append,
      List.splitOn_append_cons_self_of_not_mem hpiece, ih h, List.map_cons, List.dropLast_concat,
      List.cons_append]

def tally (n : Nat) : String := if n = 1 then "1 row in set" else toString n ++ " rows in set"

theorem newline_notMem_tally (n : Nat) : '\n' ∉ (tally n).toList := by
  have hdigits : '\n' ∉ (toString n).toList := by
    intro h
    have hmem : '\n' ∈ Nat.toDigits 10 n := by simpa using h
    exact absurd (Nat.isDigit_of_mem_toDigits (by decide) (by decide) hmem) (by decide)
  unfold tally
  split_ifs
  · decide
  · rw [String.toList_append]
    exact List.not_mem_append hdigits (by decide)

/-- The text is a table of `n` rows and a last line with their number. -/
def Rectangular (n : Nat) (text : String) : Prop :=
  ∃ pieces width, text.toList.splitOn '\n' = pieces ++ [(tally n).toList] ∧
    pieces.length = n + 4 ∧ ∀ piece ∈ pieces, Framed width piece

theorem rowSet_eq (hrows : rows ≠ []) :
    rowSet headers rows = table headers rows ++ tally rows.length := by
  rw [rowSet, if_neg (mt List.isEmpty_iff.mp hrows), tally, String.append_assoc,
    String.append_assoc]
  split_ifs with hone
  · rw [hone]
    rfl
  · rfl

theorem rectangular_rowSet (hrows : rows ≠ []) (h : Unbroken headers rows) :
    Rectangular rows.length (rowSet headers rows) := by
  have hpieces : ∀ seg ∈ segments headers rows, ∃ piece, seg = piece ++ ['\n'] ∧ '\n' ∉ piece := by
    intro seg hseg
    obtain ⟨piece, hpiece, -, hbreak⟩ := isLine_of_mem_segments hseg
    exact ⟨piece, hpiece, hbreak h⟩
  refine ⟨(segments headers rows).map List.dropLast, tableWidth headers rows, ?_, ?_,
    fun piece hpiece => ?_⟩
  · rw [rowSet_eq hrows, String.toList_append, table, String.toList_ofList]
    exact splitOn_flatten hpieces (newline_notMem_tally _)
  · rw [List.length_map, length_segments]
  · obtain ⟨seg, hseg, rfl⟩ := List.mem_map.mp hpiece
    obtain ⟨piece, rfl, hframed, -⟩ := isLine_of_mem_segments hseg
    rwa [List.dropLast_concat]

end TableShell.Layout
