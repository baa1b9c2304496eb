import Mathlib.Algebra.Order.BigOperators.Group.List
import Mathlib.Algebra.Order.Ring.Nat
import Mathlib.Data.List.Lex
import TableShell.Proofs.Dates

/-!
# The order of values

Values compare by what they stand for. Integers compare by size, texts by their bytes in UTF-8,
which is the same as by their code points, and dates by the day of the calendar, which is the same
as by year, month and day. Integers come before texts and texts before dates.
-/

namespace TableShell

namespace Text

def bytes (s : String) : List Nat := s.toUTF8.data.toList.map UInt8.toNat

def codePoints (s : String) : List Nat := s.toList.map Char.toNat

def encoded (c : Char) : List Nat := (String.utf8EncodeChar c).map UInt8.toNat

variable {c d : Char} {cs ds : List Char} {s t : String}

theorem bytes_eq (s : String) : bytes s = s.toList.flatMap encoded := by
  have hbytes : s.toUTF8.data.toList = s.toList.flatMap String.utf8EncodeChar := by
    rw [String.toUTF8_eq_toByteArray, ← String.utf8Encode_toList, List.utf8Encode,
      List.toList_data_toByteArray]
  rw [bytes, hbytes, List.map_flatMap]
  rfl

theorem toNat_lt (c : Char) : c.toNat < 0x110000 := by
  have hvalid : c.toNat.isValidChar := c.valid
  unfold Nat.isValidChar at hvalid
  omega

theorem encoded_eq (c : Char) : encoded c =
    if c.toNat ≤ 0x7F then [c.toNat]
    else if c.toNat ≤ 0x7FF then [c.toNat / 64 + 0xC0, c.toNat % 64 + 0x80]
    else if c.toNat ≤ 0xFFFF then
      [c.toNat / 4096 + 0xE0, c.toNat / 64 % 64 + 0x80, c.toNat % 64 + 0x80]
    else
      [c.toNat / 262144 + 0xF0, c.toNat / 4096 % 64 + 0x80, c.toNat / 64 % 64 + 0x80,
        c.toNat % 64 + 0x80] := by
  have hvalid : c.toNat < 0x110000 := toNat_lt c
  unfold encoded String.utf8EncodeChar
  simp only [Char.toNat_val]
  split_ifs
  all_goals
    simp only [List.map_cons, List.map_nil, UInt8.toNat_ofNat', List.cons.injEq, and_true]
    omega

theorem encoded_ne_nil (c : Char) : encoded c ≠ [] := by
  rw [encoded_eq]
  split_ifs
  all_goals exact List.cons_ne_nil _ _

/-- A longer code starts with a greater byte. Codes of one length have the digits of the code point
to the base 64, the highest first. -/
theorem lex_encoded_append (h : c.toNat < d.toNat) (xs ys : List Nat) :
    List.Lex (· < ·) (encoded c ++ xs) (encoded d ++ ys) := by
  have hvalid : d.toNat < 0x110000 := toNat_lt d
  rw [encoded_eq, encoded_eq]
  split_ifs
  all_goals
    simp only [List.cons_append, List.nil_append, List.cons_lex_cons_iff]
    omega

theorem lex_append_left_iff (xs : List Nat) {ys zs : List Nat} :
    List.Lex (· < ·) (xs ++ ys) (xs ++ zs) ↔ List.Lex (· < ·) ys zs := by
  induction xs with
  | nil => rfl
  | cons x xs ih => rw [List.cons_append, List.cons_append, List.lex_cons_iff, ih]

theorem lex_flatMap_iff {f : Char → List Nat} (hne : ∀ c, f c ≠ [])
    (hf : ∀ c d, c.toNat < d.toNat → ∀ xs ys, List.Lex (· < ·) (f c ++ xs) (f d ++ ys)) :
    List.Lex (· < ·) (cs.flatMap f) (ds.flatMap f) ↔ List.Lex (· < ·) cs ds := by
  induction cs generalizing ds with
  | nil =>
    cases ds with
    | nil => exact iff_of_false List.not_lex_nil List.not_lex_nil
    | cons d ds =>
      obtain ⟨b, bs, hb⟩ := List.exists_cons_of_ne_nil (hne d)
      rw [List.flatMap_nil, List.flatMap_cons, hb]
      exact iff_of_true .nil .nil
  | cons c cs ih =>
    cases ds with
    | nil => exact iff_of_false List.not_lex_nil List.not_lex_nil
    | cons d ds =>
      rw [List.flatMap_cons, List.flatMap_cons]
      rcases Nat.lt_trichotomy c.toNat d.toNat with hlt | heq | hgt
      · exact iff_of_true (hf c d hlt _ _) (.rel hlt)
      · obtain rfl := Char.toNat_inj.mp heq
        rw [lex_append_left_iff, List.lex_cons_iff, ih]
      · exact iff_of_false (List.lex_asymm Nat.lt_asymm (hf d c hgt _ _))
          (List.lex_asymm Char.lt_asymm (.rel hgt))

theorem lex_codePoints_iff :
    List.Lex (· < ·) (codePoints s) (codePoints t) ↔ List.Lex (· < ·) s.toList t.toList := by
  rw [codePoints, codePoints, List.map_eq_flatMap, List.map_eq_flatMap]
  refine lex_flatMap_iff (fun c => List.cons_ne_nil _ _) fun c d h xs ys => .rel h

theorem lex_bytes_iff :
    List.Lex (· < ·) (bytes s) (bytes t) ↔ List.Lex (· < ·) (codePoints s) (codePoints t) := by
  rw [bytes_eq, bytes_eq, lex_codePoints_iff]
  exact lex_flatMap_iff encoded_ne_nil fun _ _ => lex_encoded_append

theorem lex_codePoints_append (ht : t ≠ "") :
    List.Lex (· < ·) (codePoints s) (codePoints (s ++ t)) := by
  have hne : t.toList ≠ [] := fun hnil => ht (String.toList_eq_nil_iff.mp hnil)
  obtain ⟨c, cs, hcs⟩ := List.exists_cons_of_ne_nil hne
  have hlex : List.Lex (· < ·) (s.toList ++ []) (s.toList ++ c :: cs) :=
    .append_left _ .nil s.toList
  rw [List.append_nil] at hlex
  rwa [lex_codePoints_iff, String.toList_append, hcs]

theorem compare_eq_lt_iff : compare s t = .lt ↔ List.Lex (· < ·) (bytes s) (bytes t) := by
  rw [lex_bytes_iff, lex_codePoints_iff]
  exact compareOfLessAndEq_eq_lt

end Text

namespace Date

variable {d e : Date} {year : Int} {month : Nat}

theorem compare_eq_lt_iff : compare d e = .lt ↔
    d.year < e.year ∨ d.year = e.year ∧
      (d.month < e.month ∨ d.month = e.month ∧ d.day < e.day) := by
  simp only [compare_def, compareLex, compareOn, Ordering.then_eq_lt, Int.compare_eq_lt,
    Nat.compare_eq_lt, Std.LawfulEqOrd.compare_eq_iff_eq]

/-- The days from the start of year 0 to the start of the year; before year 0 they count backwards.
-/
def daysBefore (year : Int) : Int :=
  365 * year + (year + 3) / 4 - (year + 99) / 100 + (year + 399) / 400

/-- The number of the day in the count of days that starts with year 0. -/
def dayNumber (d : Date) : Int :=
  daysBefore d.year + ((monthLengths d.year).take (d.month - 1)).sum + d.day

theorem daysBefore_add_one (year : Int) :
    daysBefore (year + 1) = daysBefore year + (monthLengths year).sum := by
  unfold daysBefore monthLengths
  split_ifs with hleap
  · simp
    omega
  · simp
    omega

theorem daysBefore_mono {year year' : Int} (h : year ≤ year') :
    daysBefore year ≤ daysBefore year' := by
  unfold daysBefore
  omega

theorem sum_take_mono {i j : Nat} (h : i ≤ j) :
    ((monthLengths year).take i).sum ≤ ((monthLengths year).take j).sum :=
  (List.take_prefix_take_left h).sublist.sum_le_sum fun _ _ => Nat.zero_le _

theorem sum_take_month (h : 1 ≤ month ∧ month ≤ 12) :
    ((monthLengths year).take month).sum =
      ((monthLengths year).take (month - 1)).sum + daysInMonth year month := by
  obtain ⟨i, rfl⟩ : ∃ i, month = i + 1 := ⟨month - 1, by omega⟩
  rw [List.take_add_one, ← Nat.add_sub_cancel (n := i) (m := 1), getElem?_monthLengths h]
  simp

theorem dayNumber_bounds (d : Date) :
    daysBefore d.year + ((monthLengths d.year).take (d.month - 1)).sum < d.dayNumber ∧
      d.dayNumber ≤ daysBefore d.year + ((monthLengths d.year).take d.month).sum := by
  obtain ⟨-, hmonth, hfirst, hlast⟩ := d.isDay
  have hsum : ((monthLengths d.year).take d.month).sum = _ := sum_take_month hmonth
  unfold dayNumber
  omega

theorem dayNumber_lt_of_compare (h : compare d e = .lt) : d.dayNumber < e.dayNumber := by
  have hd := d.dayNumber_bounds
  have he := e.dayNumber_bounds
  rcases compare_eq_lt_iff.mp h with hyear | ⟨hyear, hmonth | ⟨hmonth, hday⟩⟩
  · have hmonths : ((monthLengths d.year).take d.month).sum ≤ (monthLengths d.year).sum :=
      (List.take_sublist _ _).sum_le_sum fun _ _ => Nat.zero_le _
    have hyears : daysBefore (d.year + 1) ≤ daysBefore e.year := daysBefore_mono hyear
    rw [daysBefore_add_one] at hyears
    omega
  · have hmonths : ((monthLengths d.year).take d.month).sum ≤
        ((monthLengths d.year).take (e.month - 1)).sum := sum_take_mono (by omega)
    rw [← hyear] at he
    omega
  · unfold dayNumber
    rw [hyear, hmonth]
    omega

theorem compare_eq_lt_iff_dayNumber : compare d e = .lt ↔ d.dayNumber < e.dayNumber := by
  refine ⟨dayNumber_lt_of_compare, fun h => ?_⟩
  cases hcompare : compare d e with
  | lt => rfl
  | eq =>
    rw [Std.LawfulEqOrd.eq_of_compare hcompare] at h
    exact absurd h (Int.lt_irrefl _)
  | gt =>
    have hrev := dayNumber_lt_of_compare (Std.OrientedCmp.gt_iff_lt.mp hcompare)
    omega

end Date

namespace Value

variable {a b : Value}

inductive Before : Value → Value → Prop
  | int {m n : Int64} (h : m.toInt < n.toInt) : Before (.int m) (.int n)
  | text {s t : String} (h : List.Lex (· < ·) (Text.bytes s) (Text.bytes t)) :
    Before (.text s) (.text t)
  | date {d e : Date} (h : d.dayNumber < e.dayNumber) : Before (.date d) (.date e)
  | int_text (m : Int64) (s : String) : Before (.int m) (.text s)
  | int_date (m : Int64) (d : Date) : Before (.int m) (.date d)
  | text_date (s : String) (d : Date) : Before (.text s) (.date d)

theorem compare_eq_lt_iff : compare a b = .lt ↔ Before a b := by
  constructor
  · intro h
    cases a <;> cases b
    case int.int m n => exact .int (Int64.lt_iff_toInt_lt.mp (compareOfLessAndEq_eq_lt.mp h))
    case text.text s t => exact .text (Text.compare_eq_lt_iff.mp h)
    case date.date d e => exact .date (Date.compare_eq_lt_iff_dayNumber.mp h)
    case int.text m s => exact .int_text m s
    case int.date m d => exact .int_date m d
    case text.date s d => exact .text_date s d
    all_goals cases h
  · intro h
    cases h with
    | int h => exact compareOfLessAndEq_eq_lt.mpr (Int64.lt_iff_toInt_lt.mpr h)
    | text h => exact Text.compare_eq_lt_iff.mpr h
    | date h => exact Date.compare_eq_lt_iff_dayNumber.mpr h
    | int_text | int_date | text_date => rfl

/-- Comparing two values tells which of them comes before the other, or that they are one value. The
order is strict, total and transitive. On texts it is the order of code points too, in which a text
comes before each of its extensions; on dates it is the order by year, month and day. -/
theorem compare_before :
    (∀ a b : Value, (compare a b = .lt ↔ Before a b) ∧ (compare a b = .eq ↔ a = b) ∧
        (compare a b = .gt ↔ Before b a)) ∧
      (∀ a b : Value, Before a b ∧ a ≠ b ∧ ¬ Before b a ∨ ¬ Before a b ∧ a = b ∧ ¬ Before b a ∨
        ¬ Before a b ∧ a ≠ b ∧ Before b a) ∧
      (∀ a b c : Value, Before a b → Before b c → Before a c) ∧
      (∀ s t : String, (Before (.text s) (.text t) ↔
          List.Lex (· < ·) (Text.codePoints s) (Text.codePoints t)) ∧
        (t ≠ "" → Before (.text s) (.text (s ++ t)))) ∧
      ∀ d e : Date, Before (.date d) (.date e) ↔
        d.year < e.year ∨ d.year = e.year ∧
          (d.month < e.month ∨ d.month = e.month ∧ d.day < e.day) := by
  have hgt (a b : Value) : compare a b = .gt ↔ Before b a :=
    Std.OrientedCmp.gt_iff_lt.trans compare_eq_lt_iff
  have heq (a b : Value) : compare a b = .eq ↔ a = b := Std.LawfulEqCmp.compare_eq_iff_eq
  have htext (s t : String) : Before (.text s) (.text t) ↔
      List.Lex (· < ·) (Text.codePoints s) (Text.codePoints t) := by
    rw [← Text.lex_bytes_iff, ← Text.compare_eq_lt_iff]
    exact compare_eq_lt_iff.symm
  refine ⟨fun a b => ⟨compare_eq_lt_iff, heq a b, hgt a b⟩, fun a b => ?_, fun a b c hab hbc => ?_,
    fun s t => ⟨htext s t, fun ht => ?_⟩, fun d e => ?_⟩
  · rw [← compare_eq_lt_iff, ← heq, ne_eq, ← heq, ← hgt]
    cases compare a b with
    | lt => simp
    | eq => simp
    | gt => simp
  · rw [← compare_eq_lt_iff] at *
    exact Std.TransCmp.lt_trans hab hbc
  · rw [htext]
    exact Text.lex_codePoints_append ht
  · rw [← Date.compare_eq_lt_iff]
    exact compare_eq_lt_iff.symm

/-- The largest integer, texts of three bytes and of four, and the last day before year 0. -/
theorem compare_before_extremes :
    let last := Value.int Int64.maxValue
    let narrow := Value.text "\uffff"
    let wide := Value.text "😀"
    let eve := Value.date ⟨-1, 12, 31, by decide⟩
    compare last narrow = .lt ∧ Before narrow wide ∧ Before wide eve ∧ Before narrow eve ∧
      Before eve (.date ⟨0, 1, 1, by decide⟩) := by
  intro last narrow wide eve
  obtain ⟨hcompare, -, htrans, htext, hdate⟩ := compare_before
  have hlast : Before last narrow := .int_text ..
  have hnarrow : Before narrow wide := (htext _ _).1.mpr (by decide)
  have hwide : Before wide eve := .text_date ..
  exact ⟨(hcompare _ _).1.mpr hlast, hnarrow, hwide, htrans _ _ _ hnarrow hwide,
    (hdate _ _).mpr (by decide)⟩

end Value

end TableShell
