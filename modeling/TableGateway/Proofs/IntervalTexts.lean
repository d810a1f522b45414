import TableGateway.Proofs.ArrayLiterals
import TableGateway.Proofs.NumericDecoding
import TableGateway.Cell.Value

/-!
# Intervals are written without loss

The microseconds of an interval lose their sign first, in a word that has room for the greatest of them
(`toNat_unsignedPart`), and are then split into whole seconds and a rest of six digits. Only zeros at the end of that
rest are left out, and a power of ten makes up for them (`Writes.rdropWhile_zeros`); so the text writes exactly the
microseconds (`writes_secondsText`). A decimal text writes one number only (`WritesDecimal.unique`), and no letter
stands within one, so the text of an interval is that of no other (`interval_texts_lossless`).
-/
namespace TableGateway

/-- Without the zeros at their end, digits write a number that has lost as many powers of ten. -/
theorem Writes.rdropWhile_zeros {digits : List Char} {n : ℕ} (writes : Writes digits n) :
    ∃ m, Writes (digits.rdropWhile (· = '0')) m ∧
      n = m * 10 ^ (digits.length - (digits.rdropWhile (· = '0')).length) := by
  set left := digits.rdropWhile (· = '0')
  set zeros := digits.rtakeWhile (· = '0')
  have parts : left ++ zeros = digits := List.rdropWhile_append_rtakeWhile
  have only_zeros : zeros = List.replicate zeros.length '0' :=
    List.eq_replicate_of_mem fun c member => by simpa using List.mem_rtakeWhile_imp member
  have dropped : digits.length - left.length = zeros.length := by
    rw [← parts, List.length_append]
    omega
  have kept : Writes left (Nat.ofDigitChars 10 left 0) :=
    ⟨fun c member => writes.digits c (parts ▸ List.mem_append_left _ member), rfl⟩
  have all := kept.append (Writes.zeros zeros.length)
  rw [List.length_replicate, ← only_zeros, parts, Nat.add_zero] at all
  exact ⟨_, kept, dropped ▸ writes.unique all⟩

namespace Cell
open Sql (NumberChar numberChar_intText)

/-! ## Decimals -/

/-- A sign is no digit, so a number has one exactly if its text begins with it. -/
theorem signs_eq {negative negative' : Bool} {whole whole' rest rest' : List Char} {m n : ℕ} (some_digit : whole ≠ [])
    (some_digit' : whole' ≠ []) (number : Writes whole m) (number' : Writes whole' n)
    (same : (if negative then ['-'] else []) ++ whole ++ rest = (if negative' then ['-'] else []) ++ whole' ++ rest') :
    negative = negative' := by
  obtain ⟨c, more, rfl⟩ := List.exists_cons_of_ne_nil some_digit
  obtain ⟨c', more', rfl⟩ := List.exists_cons_of_ne_nil some_digit'
  have no_sign {c : Char} (digit : c.isDigit = true) : c ≠ '-' := by
    rintro rfl
    exact absurd digit (by decide)
  have first := no_sign (number.digits c (.head _))
  have first' := no_sign (number'.digits c' (.head _))
  have heads := congrArg List.head? same
  match negative, negative' with
  | false, false | true, true => rfl
  | false, true => exact absurd (by simpa using heads) first
  | true, false => exact absurd (by simpa using heads.symm) first'

namespace WritesDecimal
variable {text : String} {negative negative' : Bool} {places places' : ℕ} {x y : ℚ}

/-- A text writes one number at most: the sign is its first character or there is none, and the whole part ends where
    the digits do. -/
theorem unique (writes : WritesDecimal text negative places x) (again : WritesDecimal text negative' places' y) :
    x = y := by
  obtain ⟨whole, fraction, m, n, chars, some_digit, number, decimals, length, rfl⟩ := writes
  obtain ⟨whole', fraction', m', n', chars', some_digit', number', decimals', length', rfl⟩ := again
  have same := chars.symm.trans chars'
  obtain rfl := signs_eq some_digit some_digit' number number' same
  rw [List.append_assoc, List.append_assoc, List.append_cancel_left_eq] at same
  have point_stops (places : ℕ) (fraction : List Char) :
      (if places = 0 then [] else '.' :: fraction).takeWhile Char.isDigit = [] := by
    split <;> rfl
  have wholes := congrArg (List.takeWhile Char.isDigit) same
  rw [List.takeWhile_append_of_pos number.digits, List.takeWhile_append_of_pos number'.digits, point_stops,
    point_stops, List.append_nil, List.append_nil] at wholes
  subst wholes
  rw [List.append_cancel_left_eq] at same
  have fractions : fraction = fraction' := by
    split at same <;> split at same <;> simp_all
  subst fractions
  rw [number.unique number', decimals.unique decimals', ← length, ← length']

theorem numberChar (writes : WritesDecimal text negative places x) : ∀ c ∈ text.toList, NumberChar c := by
  obtain ⟨whole, fraction, m, n, chars, -, number, decimals, -, -⟩ := writes
  intro c member
  rw [chars, List.mem_append, List.mem_append] at member
  obtain (sign | digit) | behind := member
  · obtain ⟨-, rfl⟩ : negative = true ∧ c = '-' := by simpa using sign
    exact .inr (.inl rfl)
  · exact .inl (number.digits c digit)
  · split at behind
    · cases behind
    · obtain rfl | digit := List.mem_cons.mp behind
      · exact .inr (.inr (.inr (.inl rfl)))
      · exact .inl (decimals.digits c digit)

end WritesDecimal

/-! ## Seconds -/

/-- A text writes microseconds as seconds: a minus sign where they are negative, the whole seconds, and only where these
    are not all, a point with one to six decimals of which the last is no zero. Its number is that of the seconds. -/
def WritesSeconds (text : String) (micros : ℤ) : Prop :=
  ∃ decimals : List Char,
    text.toList = (if micros < 0 then ['-'] else []) ++ (micros.natAbs / 1000000).repr.toList ++
      (if decimals = [] then [] else '.' :: decimals) ∧
    (decimals = [] ↔ 1000000 ∣ micros) ∧ decimals.length ≤ 6 ∧ decimals.getLast? ≠ some '0' ∧
    WritesDecimal text (micros < 0) decimals.length (micros / 1000000)

/-- Nothing is lost with the sign, not even of the least number. -/
theorem toNat_unsignedPart (n : Int64) : (unsignedPart n).toNat = n.toInt.natAbs := by
  have bits : (unsignedPart n).toNat = n.toBitVec.abs.toNat := by
    rw [← Int64.toBitVec_abs]
    rfl
  have number : n.toInt = n.toBitVec.toInt := rfl
  have below := n.toBitVec.isLt
  rw [bits, number, BitVec.toNat_abs, BitVec.toInt_eq_msb_cond]
  split <;> omega

theorem toNat_whole (n : Int64) : (unsignedPart n / 1000000).toNat = n.toInt.natAbs / 1000000 := by
  rw [UInt64.toNat_div, toNat_unsignedPart]
  rfl

theorem toNat_rest (n : Int64) : (unsignedPart n % 1000000).toNat = n.toInt.natAbs % 1000000 := by
  rw [UInt64.toNat_mod, toNat_unsignedPart]
  rfl

/-- The decimals of a rest of a second. -/
def decimalsOf (rest : ℕ) : List Char :=
  (paddedText 6 rest).toList.rdropWhile (· = '0')

/-- The point is no zero, so the zeros at the end of a text with decimals are zeros of these. -/
theorem toList_withoutEndZeros (whole : String) (rest : ℕ) :
    (withoutEndZeros (whole ++ "." ++ paddedText 6 rest)).toList = whole.toList ++ '.' :: decimalsOf rest := by
  have parts : (whole ++ "." ++ paddedText 6 rest).toList = whole.toList ++ '.' :: (paddedText 6 rest).toList := by
    simp
  rw [withoutEndZeros, String.toList_ofList, parts, List.reverse_append, List.reverse_cons, List.append_assoc,
    List.dropWhile_append]
  split
  · rename_i only_zeros
    have none_left : decimalsOf rest = [] := by
      rw [decimalsOf, List.rdropWhile, List.isEmpty_iff.mp only_zeros, List.reverse_nil]
    rw [none_left]
    simp
  · simp [decimalsOf, List.rdropWhile]

section Rest
variable {rest : ℕ}

theorem length_decimalsOf_le (below : rest < 1000000) : (decimalsOf rest).length ≤ 6 := by
  have shorter := (List.rdropWhile_prefix (fun c => decide (c = '0')) (paddedText 6 rest).toList).length_le
  rwa [length_paddedText (by decide) below] at shorter

theorem getLast?_decimalsOf (rest : ℕ) : (decimalsOf rest).getLast? ≠ some '0' := by
  by_cases some_decimal : decimalsOf rest = []
  · rw [some_decimal]
    decide
  · rw [List.getLast?_eq_some_getLast some_decimal]
    intro zero
    exact List.rdropWhile_last_not _ _ some_decimal (decide_eq_true (Option.some.inj zero))

/-- The decimals write the rest, moved behind the point. -/
theorem writes_decimalsOf (below : rest < 1000000) :
    ∃ n, Writes (decimalsOf rest) n ∧ rest = n * 10 ^ (6 - (decimalsOf rest).length) := by
  have left := (writes_paddedText 6 rest).rdropWhile_zeros
  rwa [length_paddedText (by decide) below] at left

theorem decimalsOf_eq_nil_iff (below : rest < 1000000) : decimalsOf rest = [] ↔ rest = 0 := by
  constructor
  · intro none_left
    obtain ⟨n, writes, number⟩ := writes_decimalsOf below
    rw [none_left] at writes
    obtain rfl : 0 = n := writes.number
    rw [number, Nat.zero_mul]
  · rintro rfl
    rfl

end Rest

theorem toList_secondsText (micros : Int64) :
    (secondsText micros).toList =
      (if micros.toInt < 0 then ['-'] else []) ++ (micros.toInt.natAbs / 1000000).repr.toList ++
        (if decimalsOf (micros.toInt.natAbs % 1000000) = [] then []
          else '.' :: decimalsOf (micros.toInt.natAbs % 1000000)) := by
  have below : micros.toInt.natAbs % 1000000 < 1000000 := Nat.mod_lt _ (by decide)
  have none_left : unsignedPart micros % 1000000 = 0 ↔ decimalsOf (micros.toInt.natAbs % 1000000) = [] := by
    rw [decimalsOf_eq_nil_iff below, ← toNat_rest, ← UInt64.toNat_inj]
    rfl
  have negative : micros < 0 ↔ micros.toInt < 0 := Int64.lt_iff_toInt_lt
  have sign : (if micros < 0 then "-" else "").toList = if micros.toInt < 0 then ['-'] else [] := by
    rw [apply_ite String.toList]
    simp only [negative]
    rfl
  simp only [secondsText, none_left, toNat_whole, toNat_rest]
  split
  · rw [String.toList_append, sign, List.append_nil]
  · rw [toList_withoutEndZeros, String.toList_append, sign]

theorem withSign_div (negative : Bool) (x y : ℚ) : withSign negative (x / y) = withSign negative x / y := by
  cases negative with
  | false => rfl
  | true => exact (neg_div y x).symm

theorem withSign_natAbs (n : ℤ) : withSign (n < 0) n.natAbs = n := by
  obtain negative | nonneg := lt_or_ge n 0
  · have size : (n.natAbs : ℤ) = -n := Int.ofNat_natAbs_of_nonpos negative.le
    rw [withSign, if_pos (by simpa using negative), ← Int.cast_natCast, size]
    push_cast
    ring
  · have size : (n.natAbs : ℤ) = n := Int.natAbs_of_nonneg nonneg
    rw [withSign, if_neg (by simpa using nonneg), ← Int.cast_natCast, size]

/-- So many millionths are the whole ones and, behind the point, the rest. -/
theorem millionths_eq {n m places : ℕ} (few : places ≤ 6) (rest : n % 1000000 = m * 10 ^ (6 - places)) :
    (n : ℚ) / 1000000 = (n / 1000000 : ℕ) + m / 10 ^ places := by
  have parts : n = 1000000 * (n / 1000000) + m * 10 ^ (6 - places) := by
    rw [← rest]
    exact (Nat.div_add_mod n 1000000).symm
  have million : (1000000 : ℚ) = 10 ^ (6 - places) * 10 ^ places := by
    rw [← pow_add, Nat.sub_add_cancel few]
    norm_num
  have number : (n : ℚ) = 1000000 * (n / 1000000 : ℕ) + m * 10 ^ (6 - places) := by
    exact_mod_cast parts
  calc (n : ℚ) / 1000000 = (n / 1000000 : ℕ) + m * 10 ^ (6 - places) / 1000000 := by
        rw [number, add_div, mul_div_cancel_left₀ _ (by norm_num)]
    _ = (n / 1000000 : ℕ) + m / 10 ^ places := by
        rw [million]
        field_simp

/-- The text of microseconds writes exactly their seconds. -/
theorem writes_secondsText (micros : Int64) : WritesSeconds (secondsText micros) micros.toInt := by
  set n := micros.toInt with n_eq
  have below : n.natAbs % 1000000 < 1000000 := Nat.mod_lt _ (by decide)
  obtain ⟨m, writes, rest⟩ := writes_decimalsOf below
  set decimals := decimalsOf (n.natAbs % 1000000) with decimals_eq
  have few : decimals.length ≤ 6 := length_decimalsOf_le below
  have all_whole : decimals = [] ↔ 1000000 ∣ n := by
    rw [decimals_eq, decimalsOf_eq_nil_iff below]
    omega
  have chars := toList_secondsText micros
  rw [← n_eq, ← decimals_eq] at chars
  have number : (n : ℚ) / 1000000 = withSign (n < 0) ((n.natAbs / 1000000 : ℕ) + m / 10 ^ decimals.length) := by
    rw [← millionths_eq few rest, withSign_div, withSign_natAbs]
  refine ⟨decimals, chars, all_whole, few, getLast?_decimalsOf _, (n.natAbs / 1000000).repr.toList, decimals,
    n.natAbs / 1000000, m, ?_, intText_ne_nil _, writes_intText _, writes, rfl, number⟩
  simpa using chars

theorem secondsText_injective : Function.Injective secondsText := by
  intro m n same
  obtain ⟨_, -, -, -, -, first⟩ := writes_secondsText m
  obtain ⟨_, -, -, -, -, second⟩ := writes_secondsText n
  rw [same] at first
  have seconds := first.unique second
  have number : m.toInt = n.toInt := by
    rw [div_left_inj' (by norm_num)] at seconds
    exact_mod_cast seconds
  exact Int64.toInt_inj.mp number

theorem numberChar_secondsText (micros : Int64) : ∀ c ∈ (secondsText micros).toList, NumberChar c := by
  obtain ⟨_, -, -, -, -, writes⟩ := writes_secondsText micros
  exact writes.numberChar

/-! ## Bytes -/

/-- So many bytes of a number, the highest first. -/
def bytesOf : (count n : ℕ) → List UInt8
  | 0, _ => []
  | count + 1, n => bytesOf count (n / 256) ++ [.ofNat n]

@[simp] theorem length_bytesOf (count n : ℕ) : (bytesOf count n).length = count := by
  induction count generalizing n with
  | zero => rfl
  | succ count ih => rw [bytesOf, List.length_append, ih, List.length_singleton]

theorem natural_bytesOf (count n : ℕ) : natural (bytesOf count n) = n % 256 ^ count := by
  induction count generalizing n with
  | zero => exact (Nat.mod_one n).symm
  | succ count ih =>
    have longer : natural (bytesOf count (n / 256) ++ [.ofNat n]) =
        256 * natural (bytesOf count (n / 256)) + n % 256 := by
      simp [natural]
    rw [bytesOf, longer, ih, pow_succ', Nat.mod_mul, Nat.add_comm]

/-- The bytes of a word give its signed number back. -/
theorem takeSigned?_bytesOf (count : ℕ) (word : BitVec (8 * count)) (rest : List UInt8) :
    takeSigned? count (bytesOf count word.toNat ++ rest) = some (word.toInt, rest) := by
  have enough : ¬ (bytesOf count word.toNat ++ rest).length < count := by
    rw [List.length_append, length_bytesOf]
    omega
  have below : word.toNat < 256 ^ count := by
    have := word.isLt
    rwa [pow_mul] at this
  have number : signed (8 * count) (natural (bytesOf count word.toNat)) = word.toInt := by
    rw [natural_bytesOf, Nat.mod_eq_of_lt below, signed_toNat]
  rw [takeSigned?, takeBytes?, if_neg enough, List.take_left' (length_bytesOf ..),
    List.drop_left' (length_bytesOf ..), Option.map_some]
  dsimp only
  rw [number]

/-! ## Intervals -/

theorem intText_injective : Function.Injective intText := by
  intro m n same
  have written (k : ℤ) : intText k = k.repr := by
    cases k <;> rfl
  have read := congrArg String.toInt? same
  rwa [written, written, Int.toInt?_repr, Int.toInt?_repr, Option.some.injEq] at read

namespace Interval

/-- The bytes that an interval is sent as: its microseconds, its days and its months. -/
def bytes (i : Interval) : List UInt8 :=
  bytesOf 8 i.micros.toUInt64.toNat ++ (bytesOf 4 i.days.toUInt32.toNat ++ bytesOf 4 i.months.toUInt32.toNat)

theorem interval?_bytes (i : Interval) (extra : List UInt8) : interval? (i.bytes ++ extra) = some i := by
  have micros (rest : List UInt8) :
      takeSigned? 8 (bytesOf 8 i.micros.toUInt64.toNat ++ rest) = some (i.micros.toInt, rest) :=
    takeSigned?_bytesOf 8 i.micros.toBitVec rest
  have days (rest : List UInt8) :
      takeSigned? 4 (bytesOf 4 i.days.toUInt32.toNat ++ rest) = some (i.days.toInt, rest) :=
    takeSigned?_bytesOf 4 i.days.toBitVec rest
  have months (rest : List UInt8) :
      takeSigned? 4 (bytesOf 4 i.months.toUInt32.toNat ++ rest) = some (i.months.toInt, rest) :=
    takeSigned?_bytesOf 4 i.months.toBitVec rest
  rw [interval?, bytes, List.append_assoc, List.append_assoc, micros]
  simp [days, months]

/-- The cell of an interval has its text. -/
theorem value_bytes (i : Interval) (extra : List UInt8) :
    value "INTERVAL" (some (i.bytes ++ extra)) = .string i.text := by
  have decoded : decode? "INTERVAL" (i.bytes ++ extra) =
      (interval? (i.bytes ++ extra)).map fun i => .string i.text := rfl
  rw [value, decoded, interval?_bytes]
  rfl

theorem toList_text (i : Interval) :
    i.text.toList = 'P' :: ((intText i.months.toInt).toList ++ 'M' ::
      ((intText i.days.toInt).toList ++ 'D' :: ('T' :: (secondsText i.micros).toList ++ ['S']))) := by
  simp [text]

/-- No letter stands within a number, so each letter of the text ends the number before it. -/
theorem text_injective : Function.Injective text := by
  intro i j same
  have integer_free {letter : Char} (other : ¬ NumberChar letter) (n : ℤ) : letter ∉ (intText n).toList :=
    fun member => other (numberChar_intText n letter member)
  have seconds_free {letter : Char} (other : ¬ NumberChar letter) : letter ∉ (secondsText i.micros).toList :=
    fun member => other (numberChar_secondsText i.micros letter member)
  have month : ¬ NumberChar 'M' := by simp [NumberChar]
  have day : ¬ NumberChar 'D' := by simp [NumberChar]
  have months_end := integer_free month i.months.toInt
  have days_end := integer_free day i.days.toInt
  have no_month : 'M' ∉ (intText i.days.toInt).toList ++ 'D' :: ('T' :: (secondsText i.micros).toList ++ ['S']) := by
    simp [integer_free month, seconds_free month]
  have no_day : 'D' ∉ 'T' :: (secondsText i.micros).toList ++ ['S'] := by
    simp [seconds_free day]
  have chars := congrArg String.toList same
  rw [toList_text, toList_text, List.cons_inj_right, List.append_cons_inj_of_notMem months_end no_month] at chars
  obtain ⟨months, -, chars⟩ := chars
  rw [List.append_cons_inj_of_notMem days_end no_day] at chars
  obtain ⟨days, -, chars⟩ := chars
  rw [List.append_cancel_right_eq, List.cons_inj_right] at chars
  have months := Int32.toInt_inj.mp (intText_injective (String.toList_inj.mp months))
  have days := Int32.toInt_inj.mp (intText_injective (String.toList_inj.mp days))
  have micros := secondsText_injective (String.toList_inj.mp chars)
  cases i
  cases j
  simp_all

end Interval

/-- Microseconds of 64 bits, the least ones too, are written as their seconds: the sign, the whole seconds and, where
    these are not all, one to six decimals of which the last is no zero. No word on the way is too small for its
    number. So the text of a cell that holds an interval is that of no other interval. -/
theorem interval_texts_lossless :
    (∀ micros : Int64,
      WritesSeconds (secondsText micros) micros.toInt ∧
      (unsignedPart micros).toNat = micros.toInt.natAbs ∧
      (unsignedPart micros / 1000000).toNat = micros.toInt.natAbs / 1000000 ∧
      (unsignedPart micros % 1000000).toNat = micros.toInt.natAbs % 1000000) ∧
    (∀ (i : Interval) (extra : List UInt8), value "INTERVAL" (some (i.bytes ++ extra)) = .string i.text) ∧
    Function.Injective Interval.text := by
  refine ⟨fun micros => ⟨writes_secondsText micros, toNat_unsignedPart micros, ?_, ?_⟩, Interval.value_bytes,
    Interval.text_injective⟩
  · exact toNat_whole micros
  · exact toNat_rest micros

/-- The least number of microseconds. -/
example : secondsText (-9223372036854775808) = "-9223372036854.775808" := by
  decide +kernel

end Cell
end TableGateway
