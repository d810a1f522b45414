import Mathlib
import TableGateway.Cell.Numeric

/-!
# Numerics written in decimal

A numeric is worth its digits to the base 10000, by their positions (`NumericCell.value`). The whole part of its
magnitude, with the point moved behind a position, goes on by the digit at the next one (`floor_magnitude_next`); so
the groups of four characters that are written one after the other write such whole parts
(`NumericCell.writes_groups`), wherever the given digits begin and end. When the last group is cut to the decimal
places that are shown, what is left writes the magnitude cut to them, and the text is that of the value, cut toward
zero (`numericText?_cell`).
-/
namespace TableGateway

/-! ## Numbers of characters -/

/-- Characters are digits, and write a number. -/
structure Writes (chars : List Char) (n : ℕ) : Prop where
  digits : ∀ c ∈ chars, c.isDigit = true
  number : Nat.ofDigitChars 10 chars 0 = n

namespace Writes
variable {chars front back : List Char} {m n : ℕ}

theorem append (before : Writes front m) (behind : Writes back n) :
    Writes (front ++ back) (m * 10 ^ back.length + n) where
  digits := List.forall_mem_append.mpr ⟨before.digits, behind.digits⟩
  number := by
    rw [Nat.ofDigitChars_append, before.number, Nat.ofDigitChars_eq_ofDigitChars_zero, behind.number, Nat.mul_comm]

theorem toDigits (n : ℕ) : Writes (Nat.toDigits 10 n) n where
  digits _ member := Nat.isDigit_of_mem_toDigits (by decide) (by decide) member
  number := Nat.ofDigitChars_ten_toDigits

theorem zeros (n : ℕ) : Writes (List.replicate n '0') 0 where
  digits c member := by
    obtain rfl := List.eq_of_mem_replicate member
    rfl
  number := by rw [Nat.ofDigitChars_replicate_zero, Nat.mul_zero]

theorem unique (writes : Writes chars m) (again : Writes chars n) : m = n :=
  writes.number.symm.trans again.number

theorem lt (writes : Writes chars n) : n < 10 ^ chars.length := by
  induction chars generalizing n with
  | nil =>
    rw [← writes.number]
    simp
  | cons c rest ih =>
    have rest_lt := ih ⟨fun c member => writes.digits c (.tail _ member), rfl⟩
    have digit : c.toNat - '0'.toNat ≤ 9 := by
      have := writes.digits c (.head _)
      simp [Char.isDigit, UInt32.le_iff_toNat_le] at this
      have : c.toNat = c.val.toNat := rfl
      have : '0'.toNat = 48 := rfl
      omega
    rw [← writes.number, Nat.ofDigitChars_cons, Nat.ofDigitChars_eq_ofDigitChars_zero, List.length_cons, pow_succ]
    calc
      10 ^ rest.length * (10 * 0 + (c.toNat - '0'.toNat)) + Nat.ofDigitChars 10 rest 0
        < 10 ^ rest.length * 9 + 10 ^ rest.length :=
          add_lt_add_of_le_of_lt (Nat.mul_le_mul_left _ (by omega)) rest_lt
      _ = 10 ^ rest.length * 10 := by ring

/-- Without its last digits, a number is divided by a power of ten. -/
theorem cut (writes : Writes (front ++ back) n) : Writes front (n / 10 ^ back.length) := by
  obtain ⟨before, behind⟩ := List.forall_mem_append.mp writes.digits
  have kept : Writes front (Nat.ofDigitChars 10 front 0) := ⟨before, rfl⟩
  have left : Writes back (Nat.ofDigitChars 10 back 0) := ⟨behind, rfl⟩
  have number := writes.unique (kept.append left)
  have quotient : n / 10 ^ back.length = Nat.ofDigitChars 10 front 0 := by
    rw [number, Nat.add_comm, Nat.add_mul_div_right _ _ (by positivity), Nat.div_eq_of_lt left.lt, Nat.zero_add]
  exact quotient ▸ kept

end Writes

theorem readDigits_eq_ok {bound value : ℕ} {digits : List Char} (all : ∀ c ∈ digits, c.isDigit = true)
    (below : Nat.ofDigitChars 10 digits value < bound) :
    readDigits bound value digits = .ok (Nat.ofDigitChars 10 digits value) := by
  induction digits generalizing value with
  | nil => simp [readDigits]
  | cons c rest ih =>
    rw [Nat.ofDigitChars_cons] at below ⊢
    have next_lt : 10 * value + digitValue c < bound := by
      refine lt_of_le_of_lt ?_ below
      rw [Nat.ofDigitChars_eq_ofDigitChars_zero]
      exact Nat.le_add_right_of_le (Nat.le_mul_of_pos_left _ (by positivity))
    rw [readDigits, if_pos (all c (.head _))]
    dsimp only
    rw [if_pos next_lt]
    exact ih (fun c member => all c (.tail _ member)) below

namespace Cell

/-! ## Bytes -/

/-- The bytes of words, the higher one of each word first. -/
def wordBytes (words : List UInt16) : List UInt8 :=
  words.flatMap fun word : UInt16 => [(word >>> 8).toUInt8, word.toUInt8]

theorem natural_word (word : UInt16) : natural [(word >>> 8).toUInt8, word.toUInt8] = word.toNat := by
  have := word.toNat_lt
  simp [natural]
  omega

/-- The signed number of a word is the one that its bits mean. -/
theorem signed_toNat {bits : ℕ} (word : BitVec bits) : signed bits word.toNat = word.toInt := by
  have below := word.isLt
  rw [signed, BitVec.toInt_eq_toNat_cond]
  simp only [Nat.pow_eq]
  cases bits with
  | zero =>
    obtain rfl := Subsingleton.elim word 0
    rfl
  | succ bits =>
    rw [Nat.add_sub_cancel]
    rw [pow_succ] at below ⊢
    split <;> split <;> omega

theorem signed_toUInt16 (word : Int16) : signed 16 word.toUInt16.toNat = word.toInt :=
  signed_toNat word.toBitVec

theorem wordsOf_wordBytes (words : List UInt16) (rest : List UInt8) :
    wordsOf (wordBytes words ++ rest) = words.map UInt16.toNat ++ wordsOf rest := by
  induction words with
  | nil => rfl
  | cons word words ih =>
    have parts : wordBytes (word :: words) ++ rest =
      (word >>> 8).toUInt8 :: word.toUInt8 :: (wordBytes words ++ rest) := rfl
    rw [parts, wordsOf, natural_word, ih]
    rfl

theorem length_wordsOf (bytes : List UInt8) : (wordsOf bytes).length = bytes.length / 2 := by
  fun_induction wordsOf bytes with
  | case1 high low rest ih =>
    simp only [List.length_cons, ih]
    omega
  | case2 bytes short =>
    match bytes with
    | [] => rfl
    | [_] => simp
    | high :: low :: rest => exact absurd rfl (short high low rest)

theorem numericText?_headless {bytes : List UInt8} (short : bytes.length < 8) : numericText? bytes = none := by
  have few := length_wordsOf bytes
  unfold numericText? numeric?
  split
  · rename_i words
    rw [words] at few
    simp only [List.length_cons] at few
    omega
  · rfl

/-- Digits that are counted but not there are no numeric. -/
theorem numericText?_short {count weight sign scale : UInt16} {left : List UInt8} (no_nan : sign ≠ 0xC000)
    (no_infinity : sign ≠ 0xD000 ∧ sign ≠ 0xF000) (short : left.length < 2 * count.toNat) :
    numericText? (wordBytes [count, weight, sign, scale] ++ left) = none := by
  have words_short : (wordsOf left).length < count.toNat := by
    rw [length_wordsOf]
    omega
  have nan : sign.toNat ≠ 0xC000 := fun same => no_nan (UInt16.toNat_inj.mp same)
  have above : sign.toNat ≠ 0xD000 := fun same => no_infinity.1 (UInt16.toNat_inj.mp same)
  have below : sign.toNat ≠ 0xF000 := fun same => no_infinity.2 (UInt16.toNat_inj.mp same)
  simp [numericText?, numeric?, wordsOf_wordBytes, nan, above, below, words_short]

/-! ## Magnitudes -/

/-- The sum of digits to the base 10000, the first one at a position and the others at those behind it. -/
def magnitude (digits : List (Fin 10000)) (weight : ℤ) : ℚ :=
  ∑ i : Fin digits.length, (digits[i] : ℕ) * (10000 : ℚ) ^ (weight - i)

section Magnitude
variable {digits : List (Fin 10000)}

@[simp] theorem magnitude_nil (weight : ℤ) : magnitude [] weight = 0 := rfl

theorem magnitude_cons (digit : Fin 10000) (rest : List (Fin 10000)) (weight : ℤ) :
    magnitude (digit :: rest) weight = (digit : ℕ) * (10000 : ℚ) ^ weight + magnitude rest (weight - 1) := by
  refine (Fin.sum_univ_succ _).trans ?_
  simp [magnitude, sub_sub, add_comm]

theorem magnitude_nonneg (digits : List (Fin 10000)) (weight : ℤ) : 0 ≤ magnitude digits weight :=
  Finset.sum_nonneg fun _ _ => by positivity

theorem magnitude_lt (digits : List (Fin 10000)) (weight : ℤ) : magnitude digits weight < 10000 ^ (weight + 1) := by
  induction digits generalizing weight with
  | nil =>
    rw [magnitude_nil]
    positivity
  | cons digit rest ih =>
    have behind := ih (weight - 1)
    rw [sub_add_cancel] at behind
    have digit_le : ((digit : ℕ) : ℚ) ≤ 9999 := by exact_mod_cast Nat.le_of_lt_succ digit.isLt
    have first := mul_le_mul_of_nonneg_right digit_le (zpow_nonneg (by norm_num : (0 : ℚ) ≤ 10000) weight)
    rw [magnitude_cons, zpow_add_one₀ (by norm_num)]
    linarith

/-- With the point moved, the digits are at other positions. -/
theorem magnitude_shift (digits : List (Fin 10000)) (weight : ℤ) (places : ℕ) :
    magnitude digits weight * 10000 ^ places = magnitude digits (weight + places) := by
  rw [magnitude, Finset.sum_mul]
  refine Finset.sum_congr rfl fun i _ => ?_
  rw [mul_assoc, ← zpow_natCast, ← zpow_add₀ (by norm_num)]
  congr 2
  ring

theorem floor_magnitude_of_neg {weight : ℤ} (behind : weight < 0) : ⌊magnitude digits weight⌋₊ = 0 := by
  refine Nat.floor_eq_zero.mpr ((magnitude_lt digits weight).trans_le ?_)
  exact zpow_le_one_of_nonpos₀ (by norm_num) (by omega)

theorem floor_magnitude_cons (digit : Fin 10000) (rest : List (Fin 10000)) (position : ℕ) :
    ⌊magnitude (digit :: rest) position⌋₊ = digit * 10000 ^ position + ⌊magnitude rest (position - 1)⌋₊ := by
  have number : ((digit : ℕ) : ℚ) * 10000 ^ (position : ℤ) = ((digit * 10000 ^ position : ℕ) : ℚ) := by
    push_cast
    rw [zpow_natCast]
  rw [magnitude_cons, number, add_comm, Nat.floor_add_natCast (magnitude_nonneg _ _), add_comm]

/-- The digit at a position, zero where none is given. -/
def digitOf (digits : List (Fin 10000)) (position : ℤ) : ℕ :=
  if position < 0 then 0 else (digits.map Fin.val).getD position.toNat 0

theorem digitOf_lt (digits : List (Fin 10000)) (position : ℤ) : digitOf digits position < 10000 := by
  unfold digitOf
  split
  · norm_num
  · rw [List.getD_eq_getElem?_getD, List.getElem?_map]
    cases digits[position.toNat]? with
    | none => norm_num
    | some digit => exact digit.isLt

/-- The whole part, with the point moved behind the next position, goes on by the digit there. -/
theorem floor_magnitude_next (digits : List (Fin 10000)) (position : ℤ) :
    ⌊magnitude digits position⌋₊ = 10000 * ⌊magnitude digits (position - 1)⌋₊ + digitOf digits position := by
  obtain behind | ⟨position, rfl⟩ := (lt_or_ge position 0).imp_right Int.eq_ofNat_of_zero_le
  · rw [floor_magnitude_of_neg behind, floor_magnitude_of_neg (by omega), digitOf, if_pos behind]
  induction digits generalizing position with
  | nil => simp [digitOf]
  | cons digit rest ih =>
    rw [floor_magnitude_cons]
    cases position with
    | zero =>
      rw [floor_magnitude_of_neg (by simp), floor_magnitude_of_neg (by simp)]
      simp [digitOf]
    | succ position =>
      -- The position is one of the rest, and the first digit only adds the same to both sides.
      have moved : ((position + 1 : ℕ) : ℤ) - 1 = position := by omega
      have next : digitOf (digit :: rest) (position + 1 : ℕ) = digitOf rest position := by
        rw [digitOf, digitOf, if_neg (by omega), if_neg (by omega)]
        simp
      rw [moved, floor_magnitude_cons, ih, next, pow_succ]
      ring

end Magnitude

/-! ## Cells -/

/-- A numeric as it is sent: its digits to the base 10000, the position of the first one before the point, the sign, and
    the number of decimal places that are shown. -/
structure NumericCell where
  negative : Bool
  weight : Int16
  scale : UInt16
  digits : List (Fin 10000)
  countable : digits.length < 2 ^ 15

/-- A magnitude with its sign. -/
def withSign (negative : Bool) (x : ℚ) : ℚ :=
  if negative then -x else x

namespace NumericCell

/-- The bytes of a cell: the count of digits, the weight, the sign, the scale, and the digits. -/
def bytes (cell : NumericCell) : List UInt8 :=
  wordBytes ([.ofNat cell.digits.length, cell.weight.toUInt16, if cell.negative then 0x4000 else 0, cell.scale] ++
    cell.digits.map fun digit : Fin 10000 => .ofNat digit)

def value (cell : NumericCell) : ℚ :=
  withSign cell.negative (magnitude cell.digits cell.weight.toInt)

/-- The parts that are read from its bytes. -/
def numeric (cell : NumericCell) : Numeric where
  negative := cell.negative
  weight := cell.weight.toInt
  scale := cell.scale.toNat
  digits := cell.digits.map fun digit : Fin 10000 => ((digit : ℕ) : ℤ)

theorem wordsOf_bytes (cell : NumericCell) (extra : List UInt8) :
    wordsOf (cell.bytes ++ extra) = cell.digits.length :: cell.weight.toUInt16.toNat ::
      (if cell.negative then 0x4000 else 0) :: cell.scale.toNat :: (cell.digits.map Fin.val ++ wordsOf extra) := by
  have count : (UInt16.ofNat cell.digits.length).toNat = cell.digits.length := by
    have := cell.countable
    rw [UInt16.toNat_ofNat']
    omega
  have sign : (if cell.negative then 0x4000 else 0 : UInt16).toNat = if cell.negative then 0x4000 else 0 := by
    cases cell.negative <;> rfl
  have words : (cell.digits.map fun digit : Fin 10000 => UInt16.ofNat digit).map UInt16.toNat =
      cell.digits.map Fin.val := by
    rw [List.map_map]
    refine List.map_congr_left fun digit _ => ?_
    have := digit.isLt
    rw [Function.comp_apply, UInt16.toNat_ofNat']
    omega
  rw [bytes, wordsOf_wordBytes, List.map_append, words]
  simp [count, sign]

theorem numeric?_bytes (cell : NumericCell) (extra : List UInt8) :
    numeric? (cell.bytes ++ extra) = some (.finite cell.numeric) := by
  have countable : ¬ Nat.pow 2 15 ≤ cell.digits.length := not_le.mpr cell.countable
  have present : ¬ (cell.digits.map Fin.val ++ wordsOf extra).length < cell.digits.length := by simp
  have words : ((cell.digits.map Fin.val ++ wordsOf extra).take cell.digits.length).map (signed 16) =
      cell.numeric.digits := by
    rw [List.take_left' (List.length_map _), List.map_map]
    refine List.map_congr_left fun digit _ => ?_
    have := digit.isLt
    rw [Function.comp_apply, signed, if_pos (by simp only [Nat.pow_eq]; omega)]
  rw [numeric?, wordsOf_bytes]
  dsimp only
  rw [if_neg countable, words, signed_toUInt16, if_neg present]
  cases negative : cell.negative <;> simp [numeric, negative]

theorem digitAt_numeric (cell : NumericCell) (position : ℤ) :
    cell.numeric.digitAt position = digitOf cell.digits position := by
  unfold Numeric.digitAt digitOf
  split
  · rfl
  · simp only [numeric, List.getD_eq_getElem?_getD, List.getElem?_map]
    cases cell.digits[position.toNat]? <;> rfl

end NumericCell

/-! ## Characters -/

theorem toList_paddedText (width n : ℕ) :
    (paddedText width n).toList = List.replicate (width - (Nat.toDigits 10 n).length) '0' ++ Nat.toDigits 10 n :=
  String.toList_ofList

theorem length_paddedText {width n : ℕ} (some_place : 0 < width) (below : n < 10 ^ width) :
    (paddedText width n).toList.length = width := by
  have short : (Nat.toDigits 10 n).length ≤ width := (Nat.length_toDigits_le_iff (by decide) some_place).mpr below
  rw [toList_paddedText, List.length_append, List.length_replicate]
  omega

theorem writes_paddedText (width n : ℕ) : Writes (paddedText width n).toList n := by
  have padded := (Writes.zeros (width - (Nat.toDigits 10 n).length)).append (Writes.toDigits n)
  rw [Nat.zero_mul, Nat.zero_add] at padded
  exact toList_paddedText width n ▸ padded

theorem groupChars_eq (digit : ℕ) : Numeric.groupChars digit = (paddedText 4 digit).toList := by
  rw [Numeric.groupChars, if_neg (by omega), Int.natAbs_natCast]

theorem length_groupChars {digit : ℕ} (below : digit < 10000) : (Numeric.groupChars digit).length = 4 :=
  groupChars_eq digit ▸ length_paddedText (by decide) below

theorem writes_groupChars (digit : ℕ) : Writes (Numeric.groupChars digit) digit :=
  groupChars_eq digit ▸ writes_paddedText 4 digit

theorem writes_intText (n : ℕ) : Writes (intText n).toList n := by
  change Writes n.repr.toList n
  rw [Nat.repr_eq_ofList_toDigits, String.toList_ofList]
  exact Writes.toDigits n

theorem intText_ne_nil (n : ℕ) : (intText n).toList ≠ [] := by
  change n.repr.toList ≠ []
  rw [Nat.repr_eq_ofList_toDigits, String.toList_ofList]
  exact Nat.toDigits_ne_nil

namespace NumericCell

/-- The groups of so many digits, from a position on. -/
def groups (cell : NumericCell) (position : ℤ) (count : ℕ) : List Char :=
  (List.range count).flatMap fun i : ℕ => Numeric.groupChars (cell.numeric.digitAt (position + i))

theorem groups_succ (cell : NumericCell) (position : ℤ) (count : ℕ) :
    cell.groups position (count + 1) =
      cell.groups position count ++ Numeric.groupChars (digitOf cell.digits (position + count)) := by
  simp [groups, List.range_succ, digitAt_numeric]

theorem length_groups (cell : NumericCell) (position : ℤ) (count : ℕ) :
    (cell.groups position count).length = 4 * count := by
  induction count with
  | zero => rfl
  | succ count ih =>
    rw [groups_succ, List.length_append, ih, length_groupChars (digitOf_lt _ _)]
    ring

/-- Behind the whole part, the groups write what is whole with the point moved behind them. -/
theorem writes_groups (cell : NumericCell) {chars : List Char} {position : ℤ}
    (writes : Writes chars ⌊magnitude cell.digits (position - 1)⌋₊) (count : ℕ) :
    Writes (chars ++ cell.groups position count) ⌊magnitude cell.digits (position - 1 + count)⌋₊ := by
  induction count with
  | zero => simpa [groups] using writes
  | succ count ih =>
    have at_digit : position - 1 + (count + 1 : ℕ) = position + count := by
      push_cast
      ring
    have before_digit : position + count - 1 = position - 1 + count := by ring
    have longer := ih.append (writes_groupChars (digitOf cell.digits (position + count)))
    rw [length_groupChars (digitOf_lt _ _), List.append_assoc, ← groups_succ] at longer
    rw [at_digit, floor_magnitude_next, before_digit, Nat.mul_comm]
    exact longer

theorem wholeChars_of_neg (cell : NumericCell) (behind : cell.weight.toInt < 0) : cell.numeric.wholeChars = ['0'] :=
  if_pos behind

theorem wholeChars_of_nonneg (cell : NumericCell) (before : 0 ≤ cell.weight.toInt) :
    cell.numeric.wholeChars =
      (intText (digitOf cell.digits 0)).toList ++ cell.groups 1 cell.weight.toInt.toNat := by
  have position (i : ℕ) : ((i + 1 : ℕ) : ℤ) = 1 + i := by omega
  have behind : ¬ cell.numeric.weight < 0 := not_lt.mpr before
  simp only [Numeric.wholeChars, if_neg behind, digitAt_numeric, groups, position]
  rfl

theorem writes_wholeChars (cell : NumericCell) :
    Writes cell.numeric.wholeChars ⌊magnitude cell.digits cell.weight.toInt⌋₊ := by
  obtain behind | before := lt_or_ge cell.weight.toInt 0
  · rw [floor_magnitude_of_neg behind, wholeChars_of_neg cell behind]
    exact Writes.toDigits 0
  · have first : Writes (intText (digitOf cell.digits 0)).toList ⌊magnitude cell.digits (1 - 1)⌋₊ := by
      rw [sub_self, floor_magnitude_next, floor_magnitude_of_neg (by norm_num), Nat.mul_zero, Nat.zero_add]
      exact writes_intText _
    have last : (1 - 1 + (cell.weight.toInt.toNat : ℤ)) = cell.weight.toInt := by omega
    have whole := cell.writes_groups first cell.weight.toInt.toNat
    rw [last] at whole
    rw [wholeChars_of_nonneg cell before]
    exact whole

theorem wholeChars_ne_nil (cell : NumericCell) : cell.numeric.wholeChars ≠ [] := by
  obtain behind | before := lt_or_ge cell.weight.toInt 0
  · rw [wholeChars_of_neg cell behind]
    exact List.cons_ne_nil _ _
  · rw [wholeChars_of_nonneg cell before]
    exact List.append_ne_nil_of_left_ne_nil (intText_ne_nil _) _

/-- The groups behind the point, of which the first so many characters are shown. -/
theorem fractionChars_eq (cell : NumericCell) :
    cell.numeric.fractionChars =
      (cell.groups (cell.weight.toInt + 1) ((cell.scale.toNat + 3) / 4)).take cell.scale.toNat := rfl

theorem length_fractionChars (cell : NumericCell) : cell.numeric.fractionChars.length = cell.scale.toNat := by
  rw [fractionChars_eq, List.length_take, length_groups]
  omega

/-- The digits before and behind the point are those of the magnitude, cut to the places that are shown. -/
theorem writes_chars (cell : NumericCell) :
    Writes (cell.numeric.wholeChars ++ cell.numeric.fractionChars)
      ⌊magnitude cell.digits cell.weight.toInt * 10 ^ cell.scale.toNat⌋₊ := by
  set weight := cell.weight.toInt
  set places := cell.scale.toNat
  set count := (places + 3) / 4 with count_eq
  set groups := cell.groups (weight + 1) count with groups_eq
  have whole : Writes cell.numeric.wholeChars ⌊magnitude cell.digits (weight + 1 - 1)⌋₊ := by
    rw [add_sub_cancel_right]
    exact cell.writes_wholeChars
  have all := cell.writes_groups whole count
  rw [add_sub_cancel_right, ← magnitude_shift, ← groups_eq] at all
  -- The last group may show in part only: what it does not show is cut off all that is written.
  have parts : cell.numeric.wholeChars ++ groups =
      (cell.numeric.wholeChars ++ cell.numeric.fractionChars) ++ groups.drop places := by
    rw [List.append_assoc, fractionChars_eq, ← groups_eq, List.take_append_drop]
  have dropped : (groups.drop places).length = 4 * count - places := by
    rw [List.length_drop, groups_eq, length_groups]
  have powers : (10000 : ℚ) ^ count = 10 ^ places * (10 ^ (4 * count - places) : ℕ) := by
    push_cast
    rw [← pow_add, Nat.add_sub_cancel' (by omega), pow_mul]
    norm_num
  rw [parts] at all
  have shown := all.cut
  rw [dropped, ← Nat.floor_div_natCast, powers, ← mul_assoc, mul_div_cancel_right₀ _ (by positivity)] at shown
  exact shown

end NumericCell

/-! ## Texts -/

/-- A number cut toward zero to so many decimal places. -/
def cut (places : ℕ) (x : ℚ) : ℚ :=
  (if 0 ≤ x then ⌊x * 10 ^ places⌋ else ⌈x * 10 ^ places⌉ : ℤ) / 10 ^ places

theorem cut_withSign (places : ℕ) (negative : Bool) {x : ℚ} (nonneg : 0 ≤ x) :
    cut places (withSign negative x) = withSign negative (⌊x * 10 ^ places⌋₊ / 10 ^ places) := by
  have floor : (⌊x * 10 ^ places⌋ : ℚ) = ⌊x * 10 ^ places⌋₊ := by
    rw [← Int.natCast_floor_eq_floor (by positivity)]
    rfl
  cases negative with
  | false => simp [cut, withSign, nonneg, floor]
  | true =>
    -- There is no negative zero among the numbers, so zero is cut like a positive one.
    obtain zero | positive := nonneg.eq_or_lt
    · simp [cut, withSign, ← zero]
    · have below : ¬ 0 ≤ -x := by linarith
      simp [cut, withSign, below, floor, Int.ceil_neg, neg_div]

theorem cut_eq_self {places : ℕ} {x : ℚ} (covered : ∃ n : ℤ, x * 10 ^ places = n) : cut places x = x := by
  obtain ⟨n, whole⟩ := covered
  have power : (10 : ℚ) ^ places ≠ 0 := by positivity
  rw [cut, whole, Int.floor_intCast, Int.ceil_intCast, ite_self, ← whole, mul_div_cancel_right₀ _ power]

/-- A text writes a number with so many decimal places: a minus sign if there is one, digits, and where there are
    places, a point and as many digits. -/
def WritesDecimal (text : String) (negative : Bool) (places : ℕ) (x : ℚ) : Prop :=
  ∃ (whole fraction : List Char) (m n : ℕ),
    text.toList = (if negative then ['-'] else []) ++ whole ++ (if places = 0 then [] else '.' :: fraction) ∧
    whole ≠ [] ∧ Writes whole m ∧ Writes fraction n ∧ fraction.length = places ∧
    x = withSign negative (m + n / 10 ^ places)

theorem text_writes (cell : NumericCell) :
    WritesDecimal cell.numeric.text cell.negative cell.scale.toNat (cut cell.scale.toNat cell.value) := by
  have all := cell.writes_chars
  obtain ⟨-, digits⟩ := List.forall_mem_append.mp all.digits
  have whole := cell.writes_wholeChars
  have fraction : Writes cell.numeric.fractionChars (Nat.ofDigitChars 10 cell.numeric.fractionChars 0) := ⟨digits, rfl⟩
  refine ⟨_, _, _, _, String.toList_ofList, cell.wholeChars_ne_nil, whole, fraction, cell.length_fractionChars, ?_⟩
  have number := all.unique (whole.append fraction)
  rw [cell.length_fractionChars] at number
  rw [NumericCell.value, cut_withSign _ _ (magnitude_nonneg _ _), number]
  congr 1
  push_cast
  field_simp

theorem readUnsigned_eq_ok {chars : List Char} {n bound : ℕ} (some_chars : chars ≠ []) (writes : Writes chars n)
    (below : n < bound) : readUnsigned bound chars = .ok n := by
  obtain ⟨c, rest, rfl⟩ := List.exists_cons_of_ne_nil some_chars
  rw [← writes.number] at below ⊢
  exact readDigits_eq_ok writes.digits below

theorem readSigned_minus {bits n : ℕ} {text : String} {chars : List Char} (signed : text.toList = '-' :: chars)
    (reads : readUnsigned (Nat.pow 2 (bits - 1) + 1) chars = .ok n) : readSigned bits text = .ok (-(n : ℤ)) := by
  rw [readSigned, signed]
  simp only [reads]
  rfl

theorem readSigned_digit {bits n : ℕ} {text : String} {c : Char} {rest : List Char}
    (unsigned : text.toList = c :: rest) (digit : c.isDigit = true)
    (reads : readUnsigned (Nat.pow 2 (bits - 1)) (c :: rest) = .ok n) : readSigned bits text = .ok n := by
  have plus : c ≠ '+' := by
    rintro rfl
    exact absurd digit (by decide)
  have minus : c ≠ '-' := by
    rintro rfl
    exact absurd digit (by decide)
  rw [readSigned, unsigned]
  split <;> simp_all [Except.map]

/-- Digits behind a sign are an integer of 64 bits, if their number is. -/
theorem readInt64?_eq_some {text : String} {negative : Bool} {whole : List Char} {n : ℕ}
    (chars : text.toList = (if negative then ['-'] else []) ++ whole) (some_chars : whole ≠ [])
    (writes : Writes whole n) (fits : n < 2 ^ 63 + if negative then 1 else 0) :
    readInt64? text = some (if negative then -(n : ℤ) else n) := by
  rw [readInt64?]
  cases negative with
  | true =>
    have reads : readUnsigned (Nat.pow 2 63 + 1) whole = .ok n := readUnsigned_eq_ok some_chars writes fits
    rw [readSigned_minus chars reads]
    rfl
  | false =>
    have reads : readUnsigned (Nat.pow 2 63) whole = .ok n := readUnsigned_eq_ok some_chars writes fits
    obtain ⟨c, rest, rfl⟩ := List.exists_cons_of_ne_nil some_chars
    rw [readSigned_digit chars (writes.digits c (.head _)) reads]
    rfl

/-- A text without decimal places is read as an integer, if it is one of 64 bits. -/
theorem numberOrText_eq {text : String} {negative : Bool} {x : ℚ} (writes : WritesDecimal text negative 0 x) {n : ℤ}
    (number : x = n) (low : -2 ^ 63 ≤ n) (high : n < 2 ^ 63) : numberOrText text = .number (.integer n) := by
  obtain ⟨whole, fraction, m, k, chars, some_chars, writes, fraction_writes, empty, value⟩ := writes
  obtain rfl := List.length_eq_zero_iff.mp empty
  obtain rfl : 0 = k := fraction_writes.number
  have signed : n = if negative then -(m : ℤ) else m := by
    rw [number, Nat.cast_zero, zero_div, add_zero, withSign] at value
    cases negative <;> simp at value ⊢ <;> exact_mod_cast value
  have fits : m < 2 ^ 63 + if negative then 1 else 0 := by
    cases negative <;> simp at signed ⊢ <;> omega
  have read := readInt64?_eq_some (by simpa using chars) some_chars writes fits
  rw [numberOrText, read, signed]
  rfl

/-- The bytes of a numeric give the text of its value, cut toward zero to the decimal places that it shows, which is the
    value itself where they cover it. Without places the text is read as an integer again, if that is one of 64 bits.
    Bytes that end before the digits they count give none. -/
theorem numericText?_cell (cell : NumericCell) (extra : List UInt8) :
    (∃ text, numericText? (cell.bytes ++ extra) = some text ∧
      WritesDecimal text cell.negative cell.scale.toNat (cut cell.scale.toNat cell.value) ∧
      ∀ n : ℤ, cell.scale = 0 → cut 0 cell.value = n → -2 ^ 63 ≤ n → n < 2 ^ 63 →
        numberOrText text = .number (.integer n)) ∧
    ((∃ n : ℤ, cell.value * 10 ^ cell.scale.toNat = n) → cut cell.scale.toNat cell.value = cell.value) ∧
    (∀ bytes : List UInt8, bytes.length < 8 → numericText? bytes = none) ∧
    (∀ (count weight sign scale : UInt16) (left : List UInt8), sign ≠ 0xC000 → sign ≠ 0xD000 ∧ sign ≠ 0xF000 →
      left.length < 2 * count.toNat → numericText? (wordBytes [count, weight, sign, scale] ++ left) = none) := by
  have writes := text_writes cell
  refine ⟨⟨cell.numeric.text, ?_, writes, fun n no_places number low high => ?_⟩, cut_eq_self,
    fun bytes => numericText?_headless, fun count weight sign scale left => numericText?_short⟩
  · rw [numericText?, cell.numeric?_bytes]
    rfl
  · have places : cell.scale.toNat = 0 := congrArg UInt16.toNat no_places
    rw [places] at writes
    exact numberOrText_eq writes number low high

/-- The last digit that is shown is not rounded. -/
example : numericText? [0, 1, 255, 255, 64, 0, 0, 3, 22, 46] = some "-0.567" := by
  decide +kernel

end Cell
end TableGateway
