import TableShell.Proofs.Tables

/-!
# Columns of a table

A column is as wide as the longest of its texts, but not narrower than one character and not wider
than fifty. It begins at the same place in every line, and what stands there is the whole text,
filled up with blanks on the side that its type asks for, or the beginning of a text that is too
long, with three dots. Only in the widest columns is a text cut.
-/

namespace TableShell.Layout

variable {headers : List String} {rows : List Row} {header : String} {value? : Option Value}
  {w : Nat}

def written : Option Value → List Char
  | none => []
  | some v => v.display.toList

/-- What a column shows of a cell: integers stand on the right, and fifty characters are enough. -/
def placed (width : Nat) (value? : Option Value) : List Char :=
  let text := written value?
  let blanks := List.replicate (width - text.length) ' '
  if text.length ≤ 50 then
    match value? with
    | some (.int _) => blanks ++ text
    | _ => text ++ blanks
  else text.take 47 ++ ['.', '.', '.']

/-- The lengths of the texts in a column, of which the first is its header, and one. -/
def lengths (rows : List Row) (header : String) : List Nat :=
  1 :: header.length :: rows.map fun row => (written row[header]?).length

def columnStart (widths : List Nat) (i : Nat) : Nat := 2 + ((widths.take i).map (· + 3)).sum

theorem text_of (value? : Option Value) : (Cell.of value?).text = written value? := by
  cases value? with
  | none => rfl
  | some v => rfl

theorem columnWidth_le (rows : List Row) (header : String) : columnWidth rows header ≤ maxWidth :=
  Nat.min_le_left _ _

theorem exists_columnWidth_eq (rows : List Row) (header : String) :
    ∃ m ∈ lengths rows header, (∀ n ∈ lengths rows header, n ≤ m) ∧
      columnWidth rows header = min 50 m := by
  have hcells : (cells rows header).map (·.text.length) =
      rows.map fun row => (written row[header]?).length := by
    rw [cells, List.map_map]
    exact List.map_congr_left fun row _ => congrArg List.length (text_of _)
  have hmax : (lengths rows header).max? = some
      (((cells rows header).map (·.text.length)).foldl max (max 1 header.length)) := by
    rw [hcells, lengths, List.max?_cons', List.foldl_cons]
  obtain ⟨hmem, hle⟩ := List.max?_eq_some_iff.mp hmax
  exact ⟨_, hmem, hle, rfl⟩

theorem fill_of (hfits : (Cell.of value?).Fits w) (hw : w ≤ maxWidth) :
    fill w (.of value?) = placed w value? := by
  unfold Cell.Fits maxWidth at *
  rw [text_of] at hfits
  unfold fill truncate placed
  rw [text_of]
  by_cases hlong : (written value?).length ≤ 50
  · have hle : (written value?).length ≤ w := by omega
    rw [if_pos hle, if_pos hlong]
    cases value? with
    | none => rfl
    | some v => cases v <;> rfl
  · -- The column is as wide as columns get, and no room is left for blanks.
    have hwidth : w = 50 := by omega
    have hcut : ((written value?).take 47 ++ ['.', '.', '.']).length = 50 := by
      rw [List.length_append, List.length_take]
      simp only [List.length_cons, List.length_nil]
      omega
    subst hwidth
    simp only [hlong, if_false, hcut, Nat.sub_self, List.replicate_zero, List.nil_append,
      List.append_nil, ite_self]

theorem exists_marked_eq (mark : Char) {bodies : List (List Char)} {i : Nat} {body : List Char}
    (hi : bodies[i]? = some body) :
    ∃ rest, marked mark bodies = marked mark (bodies.take i) ++ (body ++ rest) := by
  obtain ⟨hlt, rfl⟩ := List.getElem?_eq_some_iff.mp hi
  have hbodies : bodies = bodies.take i ++ bodies[i] :: bodies.drop (i + 1) := by
    rw [← List.drop_eq_getElem_cons hlt, List.take_append_drop]
  refine ⟨mark :: (bodies.drop (i + 1)).flatMap (· ++ [mark]), ?_⟩
  conv_lhs => rw [hbodies, marked_append, List.flatMap_cons]
  rw [List.append_assoc, List.singleton_append]

def valueLine (headers : List String) (rows : List Row) (f : String → Option Value) : List Char :=
  line (headers.map (columnWidth rows)) (headers.map fun h => .of (f h))

theorem slice_valueLine {f : String → Option Value} {i : Nat}
    (hfits : ∀ h ∈ headers, (Cell.of (f h)).Fits (columnWidth rows h))
    (hi : headers[i]? = some header) :
    ((valueLine headers rows f).drop (columnStart (headers.map (columnWidth rows)) i)).take
      (columnWidth rows header) = placed (columnWidth rows header) (f header) := by
  let widths := headers.map (columnWidth rows)
  let body (h : String) : List Char := ' ' :: fill (columnWidth rows h) (.of (f h)) ++ [' ']
  have hfit := hfits header (List.mem_of_getElem? hi)
  have hbody : (headers.map body)[i]? = some (body header) := by
    rw [List.getElem?_map, hi]
    rfl
  obtain ⟨rest, hrest⟩ := exists_marked_eq '|' hbody
  have hbefore : (marked '|' ((headers.map body).take i) ++ [' ']).length =
      columnStart widths i := by
    have hbodies : ((headers.map body).take i).map (·.length + 1) =
        (widths.take i).map (· + 3) := by
      rw [← List.map_take, ← List.map_take, List.map_map, List.map_map]
      refine List.map_congr_left fun h hh => ?_
      have hlength := length_fill (hfits h (List.mem_of_mem_take hh))
      simp [body, hlength]
    rw [List.length_append, length_marked, hbodies, columnStart, List.length_singleton]
    omega
  have hline : valueLine headers rows f =
      (marked '|' ((headers.map body).take i) ++ [' ']) ++
        (fill (columnWidth rows header) (.of (f header)) ++ (' ' :: rest ++ ['\n'])) := by
    rw [valueLine, line_eq_marked, hrest]
    simp [body]
  rw [hline, ← hbefore, List.drop_left, List.take_left' (length_fill hfit),
    fill_of hfit (columnWidth_le rows header)]

theorem length_placed (hfits : (Cell.of value?).Fits w) (hw : w ≤ maxWidth) :
    (placed w value?).length = w := by
  rw [← fill_of hfits hw, length_fill hfits]

theorem segments_eq (headers : List String) (rows : List Row) :
    segments headers rows = rule (headers.map (columnWidth rows)) ::
      valueLine headers rows (fun h => some (.text h)) :: rule (headers.map (columnWidth rows)) ::
      (rows.map (fun row => valueLine headers rows (row[·]?)) ++
        [rule (headers.map (columnWidth rows))]) := rfl

theorem getElem?_segments {k : Nat} {row : Row} (hk : rows[k]? = some row) :
    (segments headers rows)[k + 3]? = some (valueLine headers rows (row[·]?)) := by
  have hlt : k < rows.length := (List.getElem?_eq_some_iff.mp hk).1
  rw [segments_eq, List.getElem?_cons_succ, List.getElem?_cons_succ, List.getElem?_cons_succ,
    List.getElem?_append_left (by rwa [List.length_map]), List.getElem?_map, hk]
  rfl

/-- A table is made of a rule, the headers, a rule, the rows and a rule, each with its line break,
and all of the length that the widths of the columns make up. The width of a column is the greatest
length of its texts, at least one and at most fifty. In all lines of texts its part begins at the
same place and holds what the column shows of the header or of the value, as wide as the column;
only in columns of fifty characters is a text cut. -/
theorem table_columns (headers : List String) (rows : List Row) :
    let widths := headers.map (columnWidth rows)
    let segs := segments headers rows
    (table headers rows).toList = segs.flatten ∧ segs.length = rows.length + 4 ∧
      (∀ seg ∈ segs, ∃ piece, seg = piece ++ ['\n'] ∧
        piece.length = 1 + (widths.map (· + 3)).sum) ∧
      (∀ k ∈ [0, 2, rows.length + 3], segs[k]? =
        some (marked '+' (widths.map fun w => List.replicate (w + 2) '-') ++ ['\n'])) ∧
      ∀ i header, headers[i]? = some header → ∃ width, widths[i]? = some width ∧
        (∃ m ∈ lengths rows header, (∀ n ∈ lengths rows header, n ≤ m) ∧ width = min 50 m) ∧
        (∀ value? ∈ some (.text header) :: rows.map (·[header]?),
          (placed width value?).length = width ∧ (50 < (written value?).length → width = 50)) ∧
        (∃ seg, segs[1]? = some seg ∧
          (seg.drop (columnStart widths i)).take width = placed width (some (.text header))) ∧
        ∀ k row, rows[k]? = some row → ∃ seg, segs[k + 3]? = some seg ∧
          (seg.drop (columnStart widths i)).take width = placed width row[header]? := by
  intro widths segs
  have hheader (h : String) : (Cell.of (some (.text h))).Fits (columnWidth rows h) :=
    fits_header false
  have hcell {row : Row} (hrow : row ∈ rows) (h : String) :
      (Cell.of row[h]?).Fits (columnWidth rows h) := fits_of_mem (List.mem_map_of_mem hrow)
  refine ⟨?_, length_segments headers rows, fun seg hseg => ?_, fun k hk => ?_,
    fun i header hi => ⟨columnWidth rows header, ?_, exists_columnWidth_eq rows header,
      fun value? hvalue => ?_, ⟨_, rfl, slice_valueLine (fun h _ => hheader h) hi⟩,
      fun k row hk => ⟨_, getElem?_segments hk,
        slice_valueLine (fun h _ => hcell (List.mem_of_getElem? hk) h) hi⟩⟩⟩
  · rw [table, String.toList_ofList]
  · obtain ⟨piece, hpiece, hframed, -⟩ := isLine_of_mem_segments hseg
    refine ⟨piece, hpiece, ?_⟩
    rw [hframed.length_eq, tableWidth, List.map_map]
    rfl
  · simp only [List.mem_cons, List.not_mem_nil, or_false] at hk
    rw [← rule_eq_marked]
    rcases hk with rfl | rfl | rfl
    · rfl
    · rfl
    · simp [segs, segments_eq, widths]
  · rw [List.getElem?_map, hi]
    rfl
  · have hfits : (Cell.of value?).Fits (columnWidth rows header) := by
      rcases List.mem_cons.mp hvalue with rfl | hvalue
      · exact hheader header
      · obtain ⟨row, hrow, rfl⟩ := List.mem_map.mp hvalue
        exact hcell hrow header
    have hle := columnWidth_le rows header
    refine ⟨length_placed hfits hle, fun hlong => ?_⟩
    unfold Cell.Fits maxWidth at *
    rw [text_of] at hfits
    omega

/-- A text of eighty characters in the widest of columns, which the other row lacks, and a short
negative number beside it. -/
theorem table_columns_cut :
    let headers := ["note", "id"]
    let long := String.ofList (List.replicate 80 'x')
    let rows : List Row := [Std.ExtTreeMap.ofList [("note", Value.text long), ("id", Value.int 100)],
      Std.ExtTreeMap.ofList [("id", Value.int (-7)), ("size", Value.int 5)]]
    headers[0]? = some "note" ∧ headers[1]? = some "id" ∧ rows[0]? = some rows[0] ∧
      rows[1]? = some rows[1] ∧
      (∃ seg, (segments headers rows)[3]? = some seg ∧
        (seg.drop 2).take 50 = List.replicate 47 'x' ++ ['.', '.', '.']) ∧
      ∃ seg, (segments headers rows)[4]? = some seg ∧ (seg.drop 55).take 3 = [' ', '-', '7'] := by
  intro headers long rows
  have hwidths : headers.map (columnWidth rows) = [50, 3] := by decide +kernel
  have hcolumns := (table_columns headers rows).2.2.2.2
  rw [hwidths] at hcolumns
  obtain ⟨_, hwidth, -, -, -, hnote⟩ := hcolumns 0 "note" rfl
  obtain ⟨_, hwidth', -, -, -, hid⟩ := hcolumns 1 "id" rfl
  obtain rfl := Option.some.inj hwidth
  obtain rfl := Option.some.inj hwidth'
  obtain ⟨seg, hseg, hcut⟩ := hnote 0 rows[0] rfl
  obtain ⟨seg', hseg', hnumber⟩ := hid 1 rows[1] rfl
  have hlong : placed 50 rows[0]["note"]? = List.replicate 47 'x' ++ ['.', '.', '.'] := by
    decide +kernel
  have hshort : placed 3 rows[1]["id"]? = [' ', '-', '7'] := by decide +kernel
  exact ⟨rfl, rfl, rfl, rfl, ⟨seg, hseg, hcut.trans hlong⟩, ⟨seg', hseg', hnumber.trans hshort⟩⟩

end TableShell.Layout
