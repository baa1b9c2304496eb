import TableShell.Proofs.Integers

/-!
# Written values are read back

The text that a value is shown with is one that a user could type for it: converting it with the
type of the value gives the value again, whatever its size or sign.
-/

namespace TableShell

namespace Text

variable {ds : List Char} {n : Nat}

theorem isDigit_digitChar (h : n < 10) : (digitChar n).isDigit := by
  interval_cases n <;> rfl

theorem digitValue_digitChar (h : n < 10) : digitValue (digitChar n) = n := by
  interval_cases n <;> rfl

theorem digitsValue_replicate_append (k : Nat) (ds : List Char) :
    digitsValue (List.replicate k '0' ++ ds) = digitsValue ds := by
  induction k with
  | zero => rfl
  | succ k ih => exact ih

theorem digitsValue_decimal (n : Nat) : digitsValue (decimal n) = n := by
  fun_induction decimal n with
  | case1 n h =>
    have hvalue := digitValue_digitChar h
    simp [digitsValue, hvalue]
  | case2 n h ih =>
    rw [digitsValue_append_singleton, ih, digitValue_digitChar (Nat.mod_lt n (by decide))]
    omega

theorem isDigit_of_mem_decimal {c : Char} (hc : c ∈ decimal n) : c.isDigit := by
  fun_induction decimal n with
  | case1 n h =>
    rw [List.mem_singleton.mp hc]
    exact isDigit_digitChar h
  | case2 n h ih =>
    rcases List.mem_append.mp hc with hc | hc
    · exact ih hc
    · rw [List.mem_singleton.mp hc]
      exact isDigit_digitChar (Nat.mod_lt n (by decide))

theorem decimal_ne_nil (n : Nat) : decimal n ≠ [] := by
  fun_induction decimal n with
  | case1 n h => exact List.cons_ne_nil _ _
  | case2 n h ih => simp

theorem length_decimal_le {k : Nat} (h : n < 10 ^ (k + 1)) : (decimal n).length ≤ k + 1 := by
  induction k generalizing n with
  | zero =>
    rw [decimal, if_pos (by simpa using h)]
    rfl
  | succ k ih =>
    rw [decimal]
    split_ifs with hlt
    · simp
    · have hdiv : n / 10 < 10 ^ (k + 1) := by
        rw [Nat.pow_succ] at h
        omega
      have hlength := ih hdiv
      simpa using hlength

theorem digitsValue_decimalPadded (width n : Nat) : digitsValue (decimalPadded width n) = n := by
  rw [decimalPadded, digitsValue_replicate_append, digitsValue_decimal]

theorem isDigit_of_mem_decimalPadded {width : Nat} {c : Char} (hc : c ∈ decimalPadded width n) :
    c.isDigit := by
  rcases List.mem_append.mp hc with hc | hc
  · rw [List.eq_of_mem_replicate hc]
    rfl
  · exact isDigit_of_mem_decimal hc

theorem decimalPadded_ne_nil (width n : Nat) : decimalPadded width n ≠ [] :=
  List.append_ne_nil_of_right_ne_nil _ (decimal_ne_nil n)

theorem length_decimalPadded {k : Nat} (h : n < 10 ^ (k + 1)) :
    (decimalPadded (k + 1) n).length = k + 1 := by
  have hlength := length_decimal_le h
  rw [decimalPadded, List.length_append, List.length_replicate]
  omega

theorem denotes_decimal (n : Nat) : Denotes (decimal n) n where
  ne_nil := decimal_ne_nil n
  isDigit _ hc := isDigit_of_mem_decimal hc
  ofDigits_eq := (digitsValue_eq_ofDigits _).symm.trans (digitsValue_decimal n)

theorem denotes_decimalPadded (width n : Nat) : Denotes (decimalPadded width n) n where
  ne_nil := decimalPadded_ne_nil width n
  isDigit _ hc := isDigit_of_mem_decimalPadded hc
  ofDigits_eq := (digitsValue_eq_ofDigits _).symm.trans (digitsValue_decimalPadded width n)

theorem writesInteger_decimalInt (n : Int) : WritesInteger (decimalInt n) n := by
  have hdenotes := denotes_decimal n.natAbs
  unfold decimalInt
  split_ifs with hneg
  · have hn : -(n.natAbs : Int) = n := by omega
    have hwrites := WritesInteger.minus hdenotes
    rwa [hn] at hwrites
  · have hn : (n.natAbs : Int) = n := by omega
    have hwrites := WritesInteger.plain hdenotes
    rwa [hn] at hwrites

theorem integer?_decimalInt (n : Int) : integer? (decimalInt n) = some n :=
  integer?_eq_some_iff.mpr (writesInteger_decimalInt n)

end Text

namespace Date

open Text

theorem writesNumber_decimalPadded {k n : Nat} (hn : n < 10 ^ (k + 1)) :
    WritesNumber (k + 1) (decimalPadded (k + 1) n) n :=
  ⟨denotes_decimalPadded _ _, (length_decimalPadded hn).le⟩

theorem writesYear_yearText (year : Int) : WritesYear (yearText year) year := by
  have hdenotes := denotes_decimalPadded 4 year.natAbs
  unfold yearText
  split_ifs with hplain hneg
  · have hyear : (year.natAbs : Int) = year := by omega
    have hlt : year.natAbs < 10 ^ 4 := by omega
    have hwrites := WritesYear.plain (writesNumber_decimalPadded hlt)
    rwa [hyear] at hwrites
  · have hyear : -(year.natAbs : Int) = year := by omega
    have hwrites := WritesYear.minus hdenotes
    rwa [hyear] at hwrites
  · have hyear : (year.natAbs : Int) = year := by omega
    have hwrites := WritesYear.plus hdenotes
    rwa [hyear] at hwrites

theorem writes_render (d : Date) : Writes d.render d.year d.month d.day := by
  have hmonth : d.month < 10 ^ 2 := by
    have := d.isDay.2.1
    omega
  have hday : d.day < 10 ^ 2 := by
    have hlast := d.isDay.2.2.2
    unfold daysInMonth at hlast
    split_ifs at hlast <;> omega
  refine ⟨_, _, _, ?_, .of (writesYear_yearText d.year), .of (writesNumber_decimalPadded hmonth),
    .of (writesNumber_decimalPadded hday)⟩
  rw [render, List.append_assoc]
  rfl

theorem parse?_render (d : Date) : parse? d.render = some d :=
  parse?_eq_some_iff.mpr (writes_render d)

end Date

def Text.isNumeric (c : Char) : Bool := c.isDigit || c == '+' || c == '-'

theorem Text.isNumeric_of_isDigit {c : Char} (hc : c.isDigit) : isNumeric c := by
  rw [isNumeric, hc]
  rfl

theorem Text.isNumeric_of_mem_decimalInt {n : Int} {c : Char} (hc : c ∈ decimalInt n) :
    isNumeric c := by
  unfold decimalInt at hc
  split_ifs at hc
  · rcases List.mem_cons.mp hc with rfl | hc
    · rfl
    · exact isNumeric_of_isDigit (isDigit_of_mem_decimal hc)
  · exact isNumeric_of_isDigit (isDigit_of_mem_decimal hc)

theorem Date.isNumeric_of_mem_render {d : Date} {c : Char} (hc : c ∈ d.render) :
    Text.isNumeric c := by
  have hpadded {width n : Nat} (hc : c ∈ Text.decimalPadded width n) : Text.isNumeric c :=
    Text.isNumeric_of_isDigit (Text.isDigit_of_mem_decimalPadded hc)
  have hyear (hc : c ∈ yearText d.year) : Text.isNumeric c := by
    unfold yearText at hc
    split_ifs at hc
    · exact hpadded hc
    · rcases List.mem_cons.mp hc with rfl | hc
      · rfl
      · exact hpadded hc
    · rcases List.mem_cons.mp hc with rfl | hc
      · rfl
      · exact hpadded hc
  rw [render, List.append_assoc] at hc
  rcases List.mem_append.mp hc with hc | hc
  · exact hyear hc
  rcases List.mem_cons.mp hc with rfl | hc
  · rfl
  rcases List.mem_append.mp hc with hc | hc
  · exact hpadded hc
  rcases List.mem_cons.mp hc with rfl | hc
  · rfl
  · exact hpadded hc

/-- Only a text can be shown with a character in it that is no digit and no sign. -/
theorem Value.notMem_display {v : Value} {c : Char} (hc : Text.isNumeric c = false)
    (hv : ∀ s, v = .text s → c ∉ s.toList) : c ∉ v.display.toList := by
  intro hmem
  cases v with
  | int n =>
    rw [display, String.toList_ofList] at hmem
    have hnumeric := Text.isNumeric_of_mem_decimalInt hmem
    simp [hc] at hnumeric
  | text s => exact hv s rfl hmem
  | date d =>
    rw [display, String.toList_ofList] at hmem
    have hnumeric := Date.isNumeric_of_mem_render hmem
    simp [hc] at hnumeric

theorem Value.quote_notMem_display {v : Value} (hv : ∀ s, v = .text s → '"' ∉ s.toList) :
    '"' ∉ v.display.toList := notMem_display (by decide) hv

namespace FieldType

theorem convert_display (v : Value) : (ofValue v).convert v.display = .ok v := by
  cases v with
  | int n =>
    simp only [ofValue, convert, Value.display, String.toList_ofList, Text.integer?_decimalInt,
      Option.bind_some, Text.int64?_toInt]
  | text s => rfl
  | date d => simp only [ofValue, convert, Value.display, String.toList_ofList, Date.parse?_render]

theorem display_inj {v w : Value} (ht : ofValue v = ofValue w) :
    v.display = w.display ↔ v = w := by
  refine ⟨fun h => ?_, congrArg Value.display⟩
  have hv := convert_display v
  rw [h, ht, convert_display] at hv
  exact (Except.ok.inj hv).symm

/-- The values of a type are read back from the texts that they are shown with, which are different
for different values. So of all texts that convert to a value, the one that it is shown with is the
spelling on which they agree: two texts have the same value exactly if they lead to the same one. -/
theorem display_canonical (t : FieldType) :
    (∀ v, ofValue v = t → t.convert v.display = .ok v) ∧
      (∀ v w, ofValue v = t → ofValue w = t → v.display = w.display → v = w) ∧
      ∀ raw v, t.convert raw = .ok v → t.convert v.display = .ok v ∧
        ∀ raw' v', t.convert raw' = .ok v' → (v'.display = v.display ↔ v' = v) := by
  refine ⟨?_, fun v w hv hw => (display_inj (hv.trans hw.symm)).mp, fun raw v hraw => ⟨?_, ?_⟩⟩
  · rintro v rfl
    exact convert_display v
  · rw [← ofValue_of_convert hraw]
    exact convert_display v
  · intro raw' v' hraw'
    exact display_inj ((ofValue_of_convert hraw').trans (ofValue_of_convert hraw).symm)

/-- The smallest integer, which has no positive counterpart, and the first day, whose year is signed
and is read with leading zeros and a month of one digit. -/
theorem display_canonical_extremes :
    let least := Value.int Int64.minValue
    let first := Value.date ⟨-262143, 1, 1, by decide⟩
    integer.convert "-0009223372036854775808" = .ok least ∧
      integer.convert least.display = .ok least ∧
      date.convert " -0262143-1-01" = .ok first ∧ date.convert first.display = .ok first ∧
      first.display = "-262143-01-01" := by
  intro least first
  have hleast : integer.convert "-0009223372036854775808" = .ok least := by decide
  have hfirst : date.convert " -0262143-1-01" = .ok first := by decide
  exact ⟨hleast, ((display_canonical .integer).2.2 _ _ hleast).1, hfirst,
    (display_canonical .date).1 first rfl, by decide +kernel⟩

end FieldType

end TableShell
