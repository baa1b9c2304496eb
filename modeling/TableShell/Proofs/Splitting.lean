import Mathlib.Data.List.Forall2
import Mathlib.Data.String.Basic
import TableShell.Words

/-!
# Words read character by character

The machine that notes byte offsets cuts out the words that a plain reader finds: a text up to the
closing quote, or the characters up to the next space. Every span that it notes lies between
characters of the line.
-/

namespace TableShell.Words

/-- The words of a line; a quote that is never closed ends the reading. -/
def read : List Char → List (List Char)
  | [] => []
  | c :: cs =>
    if c = ' ' then read cs
    else if c = '"' then
      if '"' ∈ cs then cs.takeWhile (· ≠ '"') :: read (cs.dropWhile (· ≠ '"')).tail else []
    else (c :: cs.takeWhile (· ≠ ' ')) :: read (cs.dropWhile (· ≠ ' '))
termination_by cs => cs.length
decreasing_by
  · simp
  · have hlength : (cs.dropWhile (· ≠ '"')).length ≤ cs.length :=
      (List.dropWhile_sublist _).length_le
    simp only [List.length_cons, List.length_tail]
    omega
  · have hlength : (cs.dropWhile (· ≠ ' ')).length ≤ cs.length :=
      (List.dropWhile_sublist _).length_le
    simp only [List.length_cons]
    omega

variable {line : String} {pre w cs : List Char} {c : Char}

theorem read_nil : read [] = [] := by rw [read]

theorem read_space (cs : List Char) : read (' ' :: cs) = read cs := by rw [read, if_pos rfl]

theorem takeWhile_append_eq {d : Char} (hw : d ∉ w) (hcs : ∀ c ∈ cs.head?, c = d) :
    (w ++ cs).takeWhile (· ≠ d) = w ∧ (w ++ cs).dropWhile (· ≠ d) = cs := by
  have hpass : ∀ c ∈ w, decide (c ≠ d) = true := by
    intro c hc
    rw [decide_eq_true_eq]
    rintro rfl
    exact hw hc
  have hstop : cs.takeWhile (· ≠ d) = [] ∧ cs.dropWhile (· ≠ d) = cs := by
    cases cs with
    | nil => exact ⟨rfl, rfl⟩
    | cons c cs => simp [hcs c rfl]
  rw [List.takeWhile_append_of_pos hpass, List.dropWhile_append_of_pos hpass, hstop.1, hstop.2,
    List.append_nil]
  exact ⟨rfl, rfl⟩

theorem read_quoted (hw : '"' ∉ w) (cs : List Char) :
    read ('"' :: (w ++ '"' :: cs)) = w :: read cs := by
  have hmem : '"' ∈ w ++ '"' :: cs := List.mem_append_right w (List.mem_cons_self ..)
  have hstop : ∀ c ∈ ('"' :: cs).head?, c = '"' := by simp
  obtain ⟨htake, hdrop⟩ := takeWhile_append_eq hw hstop
  rw [read, if_neg (by decide), if_pos rfl, if_pos hmem, htake, hdrop, List.tail_cons]

theorem read_raw (hc : c ≠ '"') (hw : ' ' ∉ c :: w) (hcs : ∀ d ∈ cs.head?, d = ' ') :
    read (c :: (w ++ cs)) = (c :: w) :: read cs := by
  obtain ⟨hspace, hw⟩ := List.ne_and_not_mem_of_not_mem_cons hw
  obtain ⟨htake, hdrop⟩ := takeWhile_append_eq hw hcs
  rw [read, if_neg (Ne.symm hspace), if_neg hc, htake, hdrop]

def readFrom : Mode → List Char → List Char → List (List Char)
  | .between, _, cs => read cs
  | .inRaw, w, cs => (w ++ cs.takeWhile (· ≠ ' ')) :: read (cs.dropWhile (· ≠ ' '))
  | .inQuoted, w, cs =>
    if '"' ∈ cs then (w ++ cs.takeWhile (· ≠ '"')) :: read (cs.dropWhile (· ≠ '"')).tail else []

theorem readFrom_between_space (w cs : List Char) :
    readFrom .between w (' ' :: cs) = readFrom .between (w ++ [' ']) cs := read_space cs

theorem readFrom_between_quote (w cs : List Char) :
    readFrom .between w ('"' :: cs) = readFrom .inQuoted [] cs := by
  rw [readFrom, read, if_neg (by decide), if_pos rfl]
  rfl

theorem readFrom_between_other (hspace : c ≠ ' ') (hquote : c ≠ '"') (w cs : List Char) :
    readFrom .between w (c :: cs) = readFrom .inRaw [c] cs := by
  rw [readFrom, read, if_neg hspace, if_neg hquote]
  rfl

theorem readFrom_inRaw_space (w cs : List Char) :
    readFrom .inRaw w (' ' :: cs) = w :: read cs := by
  simp [readFrom, read_space]

theorem readFrom_inRaw_other (hc : c ≠ ' ') (w cs : List Char) :
    readFrom .inRaw w (c :: cs) = readFrom .inRaw (w ++ [c]) cs := by
  simp [readFrom, hc]

theorem readFrom_inQuoted_quote (w cs : List Char) :
    readFrom .inQuoted w ('"' :: cs) = w :: read cs := by
  simp [readFrom]

theorem readFrom_inQuoted_other (hc : c ≠ '"') (w cs : List Char) :
    readFrom .inQuoted w (c :: cs) = readFrom .inQuoted (w ++ [c]) cs := by
  simp [readFrom, hc, Ne.symm hc]

theorem Trigger.of_cases (c : Char) :
    (c = ' ' ∧ of c = .space) ∨ (c = '"' ∧ of c = .quote) ∨
      (c ≠ ' ' ∧ c ≠ '"' ∧ of c = .other) := by
  unfold of
  split_ifs with hspace hquote
  · exact Or.inl ⟨hspace, rfl⟩
  · exact Or.inr (Or.inl ⟨hquote, rfl⟩)
  · exact Or.inr (Or.inr ⟨hspace, hquote, rfl⟩)

/-- Both ends of the span lie between characters of the line, and in this order. -/
structure Sliceable (line : String) (span : Span) : Prop where
  fst_le_snd : span.1 ≤ span.2
  snd_le_size : span.2 ≤ line.utf8ByteSize
  isValid_fst : String.Pos.Raw.IsValid line ⟨span.1⟩
  isValid_snd : String.Pos.Raw.IsValid line ⟨span.2⟩

/-- The word is the part of the line in the span. -/
def Marks (line : String) (span : Span) (word : List Char) : Prop :=
  ∃ pre post, line.toList = pre ++ word ++ post ∧
    span = (String.utf8Len pre, String.utf8Len pre + String.utf8Len word)

theorem isValid_utf8Len (hline : line.toList = pre ++ cs) :
    String.Pos.Raw.IsValid line ⟨String.utf8Len pre⟩ := by
  rw [String.Pos.Raw.isValid_iff_exists_append]
  refine ⟨String.ofList pre, String.ofList cs, ?_, ?_⟩
  · rw [← String.ofList_append, ← hline, String.ofList_toList]
  · rw [String.rawEndPos, String.utf8ByteSize_ofList]

namespace Marks

variable {span : Span} {word : List Char}

theorem slice_eq (h : Marks line span word) : slice line span = String.ofList word := by
  obtain ⟨pre, post, hline, rfl⟩ := h
  have hofList : line = String.ofList (pre ++ word ++ post) := by
    rw [← hline, String.ofList_toList]
  rw [hofList]
  exact String.extract_of_valid pre word post

theorem subset (h : Marks line span word) : word ⊆ line.toList := by
  obtain ⟨pre, post, hline, -⟩ := h
  rw [hline]
  exact List.subset_append_of_subset_left post (List.subset_append_right pre word)

theorem sliceable (h : Marks line span word) : Sliceable line span := by
  obtain ⟨pre, post, hline, rfl⟩ := h
  have hfst : String.Pos.Raw.IsValid line ⟨String.utf8Len pre⟩ :=
    isValid_utf8Len (hline.trans (List.append_assoc ..))
  have hsnd : String.Pos.Raw.IsValid line ⟨String.utf8Len pre + String.utf8Len word⟩ := by
    rw [← String.utf8Len_append]
    exact isValid_utf8Len hline
  exact ⟨Nat.le_add_right _ _, hsnd.le_utf8ByteSize, hfst, hsnd⟩

end Marks

/-- The machine has passed `pre` and then `w`. A word that is under way starts behind `pre`. -/
structure Passed (line : String) (mode : Mode) (start pos : Nat) (pre w cs : List Char) : Prop where
  line_eq : line.toList = pre ++ w ++ cs
  start_eq : mode = .between ∨ start = String.utf8Len pre
  pos_eq : pos = String.utf8Len pre + String.utf8Len w

namespace Passed

variable {mode : Mode} {start pos : Nat}

theorem keep (h : Passed line mode start pos pre w (c :: cs)) :
    Passed line mode start (pos + c.utf8Size) pre (w ++ [c]) cs where
  line_eq := by
    rw [h.line_eq]
    simp
  start_eq := h.start_eq
  pos_eq := by
    have hsize : String.utf8Len [c] = c.utf8Size := Nat.zero_add _
    rw [String.utf8Len_append, hsize, h.pos_eq, Nat.add_assoc]

theorem leave (h : Passed line mode start pos pre w cs) :
    Passed line .between start pos pre w cs :=
  ⟨h.line_eq, Or.inl rfl, h.pos_eq⟩

theorem mark (h : Passed line mode start pos pre w cs) (mode' : Mode) :
    Passed line mode' pos pos (pre ++ w) [] cs where
  line_eq := by rw [h.line_eq, List.append_nil]
  start_eq := Or.inr (h.pos_eq.trans (String.utf8Len_append _ _).symm)
  pos_eq := h.pos_eq.trans (String.utf8Len_append _ _).symm

theorem marks (h : Passed line mode start pos pre w cs) (hmode : mode ≠ .between) :
    Marks line (start, pos) w := by
  refine ⟨pre, cs, h.line_eq, ?_⟩
  rw [h.start_eq.resolve_left hmode, h.pos_eq]

end Passed

/-- The spans from here on are those of the words that a reader finds. -/
theorem marks_spansFrom {mode : Mode} {start pos : Nat} (h : Passed line mode start pos pre w cs) :
    List.Forall₂ (Marks line) (spansFrom mode start pos cs) (readFrom mode w cs) := by
  induction cs generalizing mode start pos pre w with
  | nil =>
    cases mode with
    | between => simp [spansFrom, transition, readFrom, read_nil]
    | inQuoted => simp [spansFrom, transition, readFrom]
    | inRaw =>
      have hword : Marks line (start, pos) w := h.marks (by decide)
      simpa [spansFrom, transition, readFrom, read_nil] using hword
  | cons c cs ih =>
    cases mode with
    | between =>
      rcases Trigger.of_cases c with ⟨rfl, ht⟩ | ⟨rfl, ht⟩ | ⟨hspace, hquote, ht⟩
      · rw [spansFrom, ht, readFrom_between_space]
        exact ih h.keep
      · rw [spansFrom, ht, readFrom_between_quote]
        exact ih (h.keep.mark .inQuoted)
      · rw [spansFrom, ht, readFrom_between_other hspace hquote]
        exact ih (h.mark .inRaw).keep
    | inRaw =>
      rcases Trigger.of_cases c with ⟨rfl, ht⟩ | ⟨rfl, ht⟩ | ⟨hspace, -, ht⟩
      · rw [spansFrom, ht, readFrom_inRaw_space]
        exact .cons (h.marks (by decide)) (ih h.keep.leave)
      · rw [spansFrom, ht, readFrom_inRaw_other (by decide)]
        exact ih h.keep
      · rw [spansFrom, ht, readFrom_inRaw_other hspace]
        exact ih h.keep
    | inQuoted =>
      rcases Trigger.of_cases c with ⟨rfl, ht⟩ | ⟨rfl, ht⟩ | ⟨-, hquote, ht⟩
      · rw [spansFrom, ht, readFrom_inQuoted_other (by decide)]
        exact ih h.keep
      · rw [spansFrom, ht, readFrom_inQuoted_quote]
        exact .cons (h.marks (by decide)) (ih h.keep.leave)
      · rw [spansFrom, ht, readFrom_inQuoted_other hquote]
        exact ih h.keep

theorem marks_spans (line : String) :
    List.Forall₂ (Marks line) (spans line) (read line.toList) := by
  have h : Passed line .between 0 0 [] [] line.toList := ⟨rfl, Or.inl rfl, rfl⟩
  exact marks_spansFrom h

theorem exists_marks {span : Span} (h : span ∈ spans line) : ∃ word, Marks line span word := by
  have hspans : List.Forall₂ (fun span word => (∃ word, Marks line span word) ∧
      Marks line span word) (spans line) (read line.toList) :=
    (marks_spans line).imp fun _ word h => ⟨⟨word, h⟩, h⟩
  exact ((List.forall₂_and_left _ _).mp hspans).1 span h

theorem split_eq_read (line : String) : split line = (read line.toList).map String.ofList := by
  rw [split, ← List.forall₂_eq_eq_eq, List.forall₂_map_left_iff, List.forall₂_map_right_iff]
  exact (marks_spans line).imp fun _ _ h => h.slice_eq

theorem subset_of_mem_split {word : String} (h : word ∈ split line) :
    word.toList ⊆ line.toList := by
  obtain ⟨span, hspan, rfl⟩ := List.mem_map.mp h
  obtain ⟨w, hw⟩ := exists_marks hspan
  rw [hw.slice_eq, String.toList_ofList]
  exact hw.subset

/-- The machine cuts out words between characters of the line only, for every line and every word,
and they are the words of a plain reader. -/
theorem sliceable_spans_split_eq (line : String) :
    (∀ span ∈ spans line, Sliceable line span) ∧
      split line = (read line.toList).map String.ofList := by
  refine ⟨fun span hspan => ?_, split_eq_read line⟩
  obtain ⟨word, hword⟩ := exists_marks hspan
  exact hword.sliceable

example : spans "add \"Zoë\" é" = [(0, 3), (5, 9), (11, 13)] := by decide

end TableShell.Words
