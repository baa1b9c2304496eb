import Mathlib.Data.List.Induction
import Mathlib.Data.List.TakeWhile
import Mathlib.Data.Nat.Digits.Defs
import Mathlib.Tactic.IntervalCases
import TableShell.FieldType

/-!
# Texts that are dates

The grammar of a written date and the calendar that its day has to stand in, each given without the
functions that read it. A text converts to a date exactly if it is written by the grammar and names
a day of the calendar, and then to that date.
-/

namespace TableShell

namespace Text

variable {ds : List Char} {n : Nat}

structure Denotes (ds : List Char) (n : Nat) : Prop where
  ne_nil : ds ≠ []
  isDigit : ∀ c ∈ ds, c.isDigit
  ofDigits_eq : Nat.ofDigits 10 (ds.reverse.map digitValue) = n

theorem Denotes.exists_cons (h : Denotes ds n) : ∃ d ds', ds = d :: ds' ∧ d.isDigit := by
  obtain ⟨d, ds', rfl⟩ := List.exists_cons_of_ne_nil h.ne_nil
  exact ⟨d, ds', rfl, h.isDigit d (List.mem_cons_self ..)⟩

theorem digitsValue_append_singleton (ds : List Char) (d : Char) :
    digitsValue (ds ++ [d]) = digitsValue ds * 10 + digitValue d := by
  simp only [digitsValue, List.foldl_append, List.foldl_cons, List.foldl_nil]

theorem digitsValue_eq_ofDigits (ds : List Char) :
    digitsValue ds = Nat.ofDigits 10 (ds.reverse.map digitValue) := by
  induction ds using List.reverseRec with
  | nil => rfl
  | append_singleton ds d ih =>
    rw [digitsValue_append_singleton, List.reverse_append, List.reverse_singleton,
      List.singleton_append, List.map_cons, Nat.ofDigits_cons, ih, Nat.mul_comm, Nat.add_comm]

theorem natural?_eq_some_iff : natural? ds = some n ↔ Denotes ds n := by
  simp only [natural?, Option.ite_none_right_eq_some, Option.some.injEq, List.all_eq_true,
    digitsValue_eq_ofDigits]
  constructor
  · rintro ⟨⟨hne, hds⟩, hn⟩
    exact ⟨hne, hds, hn⟩
  · rintro ⟨hne, hds, hn⟩
    exact ⟨⟨hne, hds⟩, hn⟩

theorem isBlank_eq_false_of_isDigit {c : Char} (hc : c.isDigit) : isBlank c = false := by
  have hranges : ∀ n < 58, 48 ≤ n → inRanges blankRanges n = false := by decide
  obtain ⟨hlow, hhigh⟩ : 48 ≤ c.toNat ∧ c.toNat ≤ 57 := by
    simpa [Char.isDigit, UInt32.le_iff_toNat_le] using hc
  exact hranges c.toNat (by omega) hlow

end Text

namespace Date

open Text

def WritesNumber (most : Nat) (cs : List Char) (n : Nat) : Prop := Denotes cs n ∧ cs.length ≤ most

/-- The text is a row of up to four digits, or a sign and a row of any length. -/
inductive WritesYear : List Char → Int → Prop
  | plain {ds n} : WritesNumber 4 ds n → WritesYear ds n
  | plus {ds n} : Denotes ds n → WritesYear ('+' :: ds) n
  | minus {ds n} : Denotes ds n → WritesYear ('-' :: ds) (-n)

def Indented (P : List Char → Prop) (cs : List Char) : Prop :=
  ∃ ws body, cs = ws ++ body ∧ (∀ c ∈ ws, isBlank c) ∧ P body

/-- The text is a year, a month and a day of the month with hyphens between them. -/
def Writes (cs : List Char) (year : Int) (month day : Nat) : Prop :=
  ∃ ys ms ds, cs = ys ++ '-' :: (ms ++ '-' :: ds) ∧ Indented (WritesYear · year) ys ∧
    Indented (WritesNumber 2 · month) ms ∧ Indented (WritesNumber 2 · day) ds

variable {cs ds rest : List Char} {year : Int} {most month day n : Nat}

theorem Indented.of {P : List Char → Prop} (h : P cs) : Indented P cs :=
  ⟨[], cs, rfl, fun _ hc => absurd hc List.not_mem_nil, h⟩

theorem digitRun?_eq_some_iff (hrest : ∀ c ∈ rest.head?, c.isDigit = false) :
    digitRun? most cs = some (n, rest) ↔ ∃ ds, cs = ds ++ rest ∧ WritesNumber most ds n := by
  constructor
  · intro h
    simp only [digitRun?, Option.map_eq_some_iff, Prod.mk.injEq, natural?_eq_some_iff] at h
    obtain ⟨_, hds, rfl, hdrop⟩ := h
    set ds := (cs.take most).takeWhile Char.isDigit
    have hpre : ds <+: cs := (List.takeWhile_prefix _).trans (List.take_prefix most cs)
    obtain ⟨after, hcs⟩ := hpre
    rw [← hcs, List.drop_left] at hdrop
    subst hdrop
    have hlength : ds.length ≤ most :=
      (List.takeWhile_prefix _).length_le.trans (List.length_take_le most cs)
    exact ⟨ds, hcs.symm, hds, hlength⟩
  · rintro ⟨ds, rfl, hds, hlength⟩
    have hstop : (rest.take (most - ds.length)).takeWhile Char.isDigit = [] := by
      cases rest with
      | nil => rw [List.take_nil, List.takeWhile_nil]
      | cons c rest =>
        cases most - ds.length with
        | zero => rfl
        | succ k =>
          rw [List.take_succ_cons, List.takeWhile_cons, hrest c rfl]
          rfl
    have hrun : ((ds ++ rest).take most).takeWhile Char.isDigit = ds := by
      rw [List.take_append, List.take_of_length_le hlength, List.takeWhile_append_of_pos hds.isDigit,
        hstop, List.append_nil]
    simp only [digitRun?, hrun, natural?_eq_some_iff.mpr hds, List.drop_left, Option.map_some]

theorem digitRun?_length_eq_some_iff (hrest : ∀ c ∈ rest.head?, c.isDigit = false) :
    digitRun? cs.length cs = some (n, rest) ↔ ∃ ds, cs = ds ++ rest ∧ Denotes ds n := by
  rw [digitRun?_eq_some_iff hrest]
  constructor
  · rintro ⟨ds, hcs, hds, -⟩
    exact ⟨ds, hcs, hds⟩
  · rintro ⟨ds, rfl, hds⟩
    have hlength : ds.length ≤ (ds ++ rest).length := by
      rw [List.length_append]
      exact Nat.le_add_right _ _
    exact ⟨ds, rfl, hds, hlength⟩

theorem year?_of_denotes (hds : Denotes ds n) :
    year? (ds ++ rest) = (digitRun? 4 (ds ++ rest)).map fun (n, rest) => ((n : Int), rest) := by
  obtain ⟨d, ds, rfl, hd⟩ := hds.exists_cons
  rw [List.cons_append]
  unfold year?
  split
  · next heq =>
    cases heq
    exact absurd hd (by decide)
  · next heq =>
    cases heq
    exact absurd hd (by decide)
  · rfl

theorem year?_eq_some_iff (hrest : ∀ c ∈ rest.head?, c.isDigit = false) :
    year? cs = some (year, rest) ↔ ∃ ys, cs = ys ++ rest ∧ WritesYear ys year := by
  constructor
  · intro h
    unfold year? at h
    split at h
    all_goals
      obtain ⟨⟨n, rest'⟩, hrun, heq⟩ := Option.map_eq_some_iff.mp h
      obtain ⟨rfl, rfl⟩ := Prod.mk.inj heq
    · obtain ⟨ds, rfl, hds⟩ := (digitRun?_length_eq_some_iff hrest).mp hrun
      exact ⟨'+' :: ds, rfl, .plus hds⟩
    · obtain ⟨ds, rfl, hds⟩ := (digitRun?_length_eq_some_iff hrest).mp hrun
      exact ⟨'-' :: ds, rfl, .minus hds⟩
    · obtain ⟨ds, rfl, hds⟩ := (digitRun?_eq_some_iff hrest).mp hrun
      exact ⟨ds, rfl, .plain hds⟩
  · rintro ⟨ys, rfl, hys⟩
    cases hys with
    | plain hds =>
      rw [year?_of_denotes hds.1, (digitRun?_eq_some_iff hrest).mpr ⟨ys, rfl, hds⟩]
      rfl
    | plus hds =>
      rw [List.cons_append, year?, (digitRun?_length_eq_some_iff hrest).mpr ⟨_, rfl, hds⟩]
      rfl
    | minus hds =>
      rw [List.cons_append, year?, (digitRun?_length_eq_some_iff hrest).mpr ⟨_, rfl, hds⟩]
      rfl

/-- The texts with the property start with a character, and it is no blank. -/
def StartsSolid (P : List Char → Prop) : Prop :=
  ∀ body, P body → ∃ c cs, body = c :: cs ∧ isBlank c = false

theorem startsSolid_writesNumber : StartsSolid (WritesNumber most · n) := by
  intro body h
  obtain ⟨d, ds, rfl, hd⟩ := h.1.exists_cons
  exact ⟨d, ds, rfl, isBlank_eq_false_of_isDigit hd⟩

theorem startsSolid_writesYear : StartsSolid (WritesYear · year) := by
  intro body h
  cases h with
  | plain h => exact startsSolid_writesNumber body h
  | plus h => exact ⟨'+', _, rfl, rfl⟩
  | minus h => exact ⟨'-', _, rfl, rfl⟩

theorem dropWhile_isBlank_iff {P : List Char → Prop} (hP : StartsSolid P) :
    (∃ body, cs.dropWhile isBlank = body ++ rest ∧ P body) ↔
      ∃ body, cs = body ++ rest ∧ Indented P body := by
  constructor
  · rintro ⟨body, hdrop, hbody⟩
    refine ⟨cs.takeWhile isBlank ++ body, ?_, _, body, rfl, fun c hc => ?_, hbody⟩
    · rw [List.append_assoc, ← hdrop, List.takeWhile_append_dropWhile]
    · exact List.mem_takeWhile_imp hc
  · rintro ⟨_, rfl, ws, body, rfl, hws, hbody⟩
    obtain ⟨c, cs, rfl, hc⟩ := hP body hbody
    refine ⟨c :: cs, ?_, hbody⟩
    rw [List.append_assoc, List.dropWhile_append_of_pos hws, List.cons_append,
      List.dropWhile_cons_of_neg (by simp [hc])]

theorem afterHyphen?_eq_some_iff : afterHyphen? cs = some rest ↔ cs = '-' :: rest := by
  constructor
  · intro h
    unfold afterHyphen? at h
    split at h
    · cases h
      rfl
    · cases h
  · rintro rfl
    rfl

theorem ofDay?_eq_some_iff {d : Date} :
    ofDay? year month day = some d ↔ year = d.year ∧ month = d.month ∧ day = d.day := by
  obtain ⟨year', month', day', hday⟩ := d
  unfold ofDay?
  constructor
  · intro h
    split_ifs at h
    cases h
    exact ⟨rfl, rfl, rfl⟩
  · rintro ⟨rfl, rfl, rfl⟩
    exact dif_pos hday

theorem isDigit_head?_hyphen : ∀ c ∈ ('-' :: rest).head?, c.isDigit = false := by
  intro c hc
  cases hc
  rfl

theorem parse?_eq_some_iff {d : Date} : parse? cs = some d ↔ Writes cs d.year d.month d.day := by
  have hyear {cs rest : List Char} {year : Int} :
      year? (cs.dropWhile isBlank) = some (year, '-' :: rest) ↔
        ∃ ys, cs = ys ++ '-' :: rest ∧ Indented (WritesYear · year) ys :=
    (year?_eq_some_iff isDigit_head?_hyphen).trans (dropWhile_isBlank_iff startsSolid_writesYear)
  have hnumber {cs rest : List Char} {n : Nat} (hrest : ∀ c ∈ rest.head?, c.isDigit = false) :
      digitRun? 2 (cs.dropWhile isBlank) = some (n, rest) ↔
        ∃ ns, cs = ns ++ rest ∧ Indented (WritesNumber 2 · n) ns :=
    (digitRun?_eq_some_iff hrest).trans (dropWhile_isBlank_iff startsSolid_writesNumber)
  have hend : ∀ c ∈ ([] : List Char).head?, c.isDigit = false := by
    intro c hc
    cases hc
  simp only [parse?, Option.bind_eq_bind, Option.bind_eq_some_iff, Prod.exists,
    afterHyphen?_eq_some_iff, Option.ite_none_right_eq_some, ofDay?_eq_some_iff]
  constructor
  · rintro ⟨_, _, hy, _, rfl, _, _, hm, _, rfl, _, _, hd, rfl, rfl, rfl, rfl⟩
    obtain ⟨ys, rfl, hys⟩ := hyear.mp hy
    obtain ⟨ms, rfl, hms⟩ := (hnumber isDigit_head?_hyphen).mp hm
    obtain ⟨ds, rfl, hds⟩ := (hnumber hend).mp hd
    rw [List.append_nil]
    exact ⟨ys, ms, ds, rfl, hys, hms, hds⟩
  · rintro ⟨ys, ms, ds, rfl, hys, hms, hds⟩
    exact ⟨_, _, hyear.mpr ⟨ys, rfl, hys⟩, _, rfl,
      _, _, (hnumber isDigit_head?_hyphen).mpr ⟨ms, rfl, hms⟩, _, rfl,
      _, _, (hnumber hend).mpr ⟨ds, ds.append_nil.symm, hds⟩, rfl, rfl, rfl, rfl⟩

def monthLengths (year : Int) : List Nat :=
  [31, if 4 ∣ year ∧ (100 ∣ year → 400 ∣ year) then 29 else 28, 31, 30, 31, 30, 31, 31, 30, 31, 30,
    31]

/-- The days of the proleptic Gregorian calendar in the years that a date can have. -/
def OnCalendar (year : Int) (month day : Nat) : Prop :=
  (-262143 ≤ year ∧ year ≤ 262142) ∧ (1 ≤ month ∧ month ≤ 12) ∧
    ∃ length, (monthLengths year)[month - 1]? = some length ∧ 1 ≤ day ∧ day ≤ length

theorem isLeapYear_iff : isLeapYear year ↔ 4 ∣ year ∧ (100 ∣ year → 400 ∣ year) := by
  simp only [isLeapYear, Bool.and_eq_true, Bool.or_eq_true, beq_iff_eq, bne_iff_ne]
  omega

theorem getElem?_monthLengths (h : 1 ≤ month ∧ month ≤ 12) :
    (monthLengths year)[month - 1]? = some (daysInMonth year month) := by
  obtain ⟨hfirst, hlast⟩ := h
  interval_cases month
  case «2» =>
    simp only [monthLengths, daysInMonth, isLeapYear_iff]
    rfl
  all_goals rfl

theorem isDay_iff : IsDay year month day ↔ OnCalendar year month day := by
  refine and_congr_right fun _ => and_congr_right fun hmonth => ?_
  simp only [getElem?_monthLengths hmonth, Option.some.injEq, exists_eq_left']

theorem parse?_eq_none_iff : parse? cs = none ↔
    ∀ year month day, Writes cs year month day → ¬ OnCalendar year month day := by
  rw [Option.eq_none_iff_forall_ne_some]
  constructor
  · intro h year month day hwrites hday
    exact h ⟨year, month, day, isDay_iff.mpr hday⟩ (parse?_eq_some_iff.mpr hwrites)
  · intro h d hd
    exact h _ _ _ (parse?_eq_some_iff.mp hd) (isDay_iff.mp d.isDay)

end Date

namespace FieldType

/-- A text converts to a date exactly if it is written by the grammar and names a day of the
calendar, and then to that day. The one error quotes the text. -/
theorem convert_date_iff (raw : String) :
    (∀ v, date.convert raw = .ok v ↔
        ∃ year month day, Date.Writes raw.toList year month day ∧
          ∃ hday : Date.OnCalendar year month day,
            v = .date ⟨year, month, day, Date.isDay_iff.mpr hday⟩) ∧
      ∀ e, date.convert raw = .error e ↔
        (∀ year month day,
            Date.Writes raw.toList year month day → ¬ Date.OnCalendar year month day) ∧
          e = .entryInvalid (.notADate raw) ∧
          e.message = "invalid entry: incorrect date format, should be YYYY-MM-DD: " ++ raw := by
  refine ⟨fun v => ⟨fun h => ?_, ?_⟩, fun e => ⟨fun h => ?_, ?_⟩⟩
  · simp only [convert] at h
    split at h
    · next d hd =>
      cases h
      exact ⟨d.year, d.month, d.day, Date.parse?_eq_some_iff.mp hd, Date.isDay_iff.mp d.isDay, rfl⟩
    · cases h
  · rintro ⟨year, month, day, hwrites, hday, rfl⟩
    have hparse : Date.parse? raw.toList = some ⟨year, month, day, Date.isDay_iff.mpr hday⟩ :=
      Date.parse?_eq_some_iff.mpr hwrites
    simp only [convert, hparse]
  · simp only [convert] at h
    split at h
    · cases h
    · next hnone =>
      cases h
      exact ⟨Date.parse?_eq_none_iff.mp hnone, rfl, rfl⟩
  · rintro ⟨hnone, rfl, -⟩
    simp only [convert, Date.parse?_eq_none_iff.mpr hnone]

/-- A leading zero and blanks before each number, and a century that is no leap year. -/
example :
    date.convert "\t+02000- 2-\u202f29" = .ok (.date ⟨2000, 2, 29, by decide⟩) ∧
      date.convert "1900-02-29" = .error (.entryInvalid (.notADate "1900-02-29")) := by
  decide

end FieldType

end TableShell
