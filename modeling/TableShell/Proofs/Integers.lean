import TableShell.Proofs.Dates

/-!
# Texts that are integers

The grammar of a written integer, given without the function that reads it. A text converts to an
integer exactly if it is written by the grammar and denotes a number of 64 bits, and then to that
number. A number that is too large or too small is refused and never taken for another one.
-/

namespace TableShell

namespace Text

/-- The text is a row of digits with at most one sign in front, and `n` is what it denotes. -/
inductive WritesInteger : List Char → Int → Prop
  | plain {ds n} : Denotes ds n → WritesInteger ds n
  | plus {ds n} : Denotes ds n → WritesInteger ('+' :: ds) n
  | minus {ds n} : Denotes ds n → WritesInteger ('-' :: ds) (-n)

variable {cs ds : List Char} {n n' : Int} {k : Nat} {m : Int64}

theorem integer?_of_denotes (hds : Denotes ds k) : integer? ds = some (k : Int) := by
  unfold integer?
  split
  · exact absurd (hds.isDigit '+' (List.mem_cons_self ..)) (by decide)
  · exact absurd (hds.isDigit '-' (List.mem_cons_self ..)) (by decide)
  · rw [natural?_eq_some_iff.mpr hds]
    rfl

theorem integer?_eq_some_iff : integer? cs = some n ↔ WritesInteger cs n := by
  constructor
  · intro h
    unfold integer? at h
    split at h
    · obtain ⟨k, hk, rfl⟩ := Option.map_eq_some_iff.mp h
      exact .plus (natural?_eq_some_iff.mp hk)
    · obtain ⟨_, hvalue, rfl⟩ := Option.map_eq_some_iff.mp h
      obtain ⟨k, hk, hvalue⟩ := Option.bind_eq_some_iff.mp hvalue
      cases hvalue
      exact .minus (natural?_eq_some_iff.mp hk)
    · obtain ⟨k, hk, rfl⟩ := Option.map_eq_some_iff.mp h
      exact .plain (natural?_eq_some_iff.mp hk)
  · intro h
    cases h with
    | plain hds => exact integer?_of_denotes hds
    | plus hds =>
      rw [integer?, natural?_eq_some_iff.mpr hds]
      rfl
    | minus hds =>
      rw [integer?, natural?_eq_some_iff.mpr hds]
      rfl

theorem WritesInteger.unique (h : WritesInteger cs n) (h' : WritesInteger cs n') : n = n' := by
  have hread := integer?_eq_some_iff.mpr h
  rw [integer?_eq_some_iff.mpr h'] at hread
  exact (Option.some.inj hread).symm

theorem exists_toInt_eq_iff : (∃ m : Int64, m.toInt = n) ↔ -2 ^ 63 ≤ n ∧ n ≤ 2 ^ 63 - 1 := by
  constructor
  · rintro ⟨m, rfl⟩
    have hlow := m.le_toInt
    have hhigh := m.toInt_lt
    omega
  · rintro ⟨hlow, hhigh⟩
    refine ⟨Int64.ofInt n, Int64.toInt_ofInt_of_le ?_ ?_⟩
    · exact hlow
    · omega

theorem int64?_toInt (m : Int64) : int64? m.toInt = some m := by
  have hmin : Int64.minValue.toInt ≤ m.toInt := m.le_toInt
  have hmax : m.toInt ≤ Int64.maxValue.toInt := m.toInt_le
  rw [int64?, if_pos ⟨hmin, hmax⟩, Int64.ofInt_toInt]

theorem int64?_eq_some_iff : int64? n = some m ↔ m.toInt = n := by
  constructor
  · intro h
    unfold int64? at h
    split_ifs at h with hn
    obtain ⟨m', rfl⟩ := exists_toInt_eq_iff.mpr hn
    rw [← Option.some.inj h, Int64.ofInt_toInt]
  · rintro rfl
    exact int64?_toInt m

theorem bind_int64?_eq_some_iff :
    (integer? cs).bind int64? = some m ↔ WritesInteger cs m.toInt := by
  rw [Option.bind_eq_some_iff]
  constructor
  · rintro ⟨n, hn, hm⟩
    rw [int64?_eq_some_iff.mp hm]
    exact integer?_eq_some_iff.mp hn
  · intro h
    exact ⟨m.toInt, integer?_eq_some_iff.mpr h, int64?_toInt m⟩

theorem bind_int64?_eq_none_iff :
    (integer? cs).bind int64? = none ↔
      ∀ n, WritesInteger cs n → ¬ (-2 ^ 63 ≤ n ∧ n ≤ 2 ^ 63 - 1) := by
  rw [Option.eq_none_iff_forall_ne_some]
  constructor
  · intro h n hwrites hn
    obtain ⟨m, rfl⟩ := exists_toInt_eq_iff.mpr hn
    exact h m (bind_int64?_eq_some_iff.mpr hwrites)
  · intro h m hm
    exact h m.toInt (bind_int64?_eq_some_iff.mp hm) (exists_toInt_eq_iff.mp ⟨m, rfl⟩)

end Text

namespace FieldType

/-- A text converts to an integer exactly if it is written by the grammar and the one number that it
denotes has 64 bits, and then to that number. The one error quotes the text. -/
theorem convert_integer_iff (raw : String) :
    (∀ v, integer.convert raw = .ok v ↔
        ∃ n, Text.WritesInteger raw.toList n ∧ (-2 ^ 63 ≤ n ∧ n ≤ 2 ^ 63 - 1) ∧
          ∃ m : Int64, m.toInt = n ∧ v = .int m) ∧
      (∀ e, integer.convert raw = .error e ↔
        (∀ n, Text.WritesInteger raw.toList n → ¬ (-2 ^ 63 ≤ n ∧ n ≤ 2 ^ 63 - 1)) ∧
          e = .entryInvalid (.notAnInteger raw) ∧
          e.message = "invalid entry: invalid integer: " ++ raw) ∧
      ∀ n n', Text.WritesInteger raw.toList n → Text.WritesInteger raw.toList n' → n = n' := by
  refine ⟨fun v => ⟨fun h => ?_, ?_⟩, fun e => ⟨fun h => ?_, ?_⟩,
    fun _ _ => Text.WritesInteger.unique⟩
  · simp only [convert] at h
    split at h
    · next m hm =>
      cases h
      have hn : -2 ^ 63 ≤ m.toInt ∧ m.toInt ≤ 2 ^ 63 - 1 := Text.exists_toInt_eq_iff.mp ⟨m, rfl⟩
      exact ⟨m.toInt, Text.bind_int64?_eq_some_iff.mp hm, hn, m, rfl, rfl⟩
    · cases h
  · rintro ⟨n, hwrites, -, m, rfl, rfl⟩
    simp only [convert, Text.bind_int64?_eq_some_iff.mpr hwrites]
  · simp only [convert] at h
    split at h
    · cases h
    · next hnone =>
      cases h
      exact ⟨Text.bind_int64?_eq_none_iff.mp hnone, rfl, rfl⟩
  · rintro ⟨hnone, rfl, -⟩
    simp only [convert, Text.bind_int64?_eq_none_iff.mpr hnone]

example :
    integer.convert "+09223372036854775807" = .ok (.int Int64.maxValue) ∧
      integer.convert "9223372036854775808" =
        .error (.entryInvalid (.notAnInteger "9223372036854775808")) := by
  decide

end FieldType

end TableShell
