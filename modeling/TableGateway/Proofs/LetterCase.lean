import Mathlib
import TableGateway.Text.LowerCase

/-!
# The lower case of a text and of its letters

The lower case of a text is that of its letters, one by one, but for two of them: `İ` becomes two characters, and a
capital sigma at the end of a word becomes a final sigma (`FinalSigma`). So a text and its lower case differ in no more
than the case of letters if and only if it has neither (`map_lowerFrom_iff`).
-/
namespace TableGateway

/-- The lower case of a character as one character; that of `İ` is `i`. -/
def lowerLetter (c : Char) : Char :=
  (lowerChar c).headD c

/-- Holds when a capital sigma ends a word in a text that follows `before`, which is written backwards. -/
def FinalSigma (before text : List Char) : Prop :=
  ∃ front behind, text = front ++ 'Σ' :: behind ∧ startsCased (front.reverse ++ before) = true ∧
    startsCased behind = false

/-! ## Letters -/

theorem lowerChar_eq {c : Char} (one : c ≠ 'İ') : lowerChar c = [lowerLetter c] := by
  have code : c.toNat ≠ 0x130 := fun same => one (Char.toNat_inj.mp same)
  simp only [lowerLetter, lowerChar, if_neg code]
  split
  · rfl
  · split <;> rfl

/-- The lower case of a letter is the letter, that of ASCII, `i`, or one in a run. -/
theorem lowerLetter_cases (c : Char) :
    lowerLetter c = c ∨ (c.toNat < 128 ∧ lowerLetter c = c.toLower) ∨ lowerLetter c = 'i' ∨
      ∃ run ∈ lowerRuns, ∃ k ≤ run.2.1 - run.1, k % run.2.2.1 = 0 ∧ lowerLetter c = Char.ofNat (run.2.2.2 + k) := by
  simp only [lowerLetter, lowerChar]
  split
  · exact .inr (.inl ⟨‹_›, rfl⟩)
  · split
    · exact .inr (.inr (.inl rfl))
    · split
      · rename_i first last step image found
        have member := List.mem_of_find?_eq_some found
        have within := List.find?_some found
        simp only [Bool.and_eq_true, decide_eq_true_eq, beq_iff_eq] at within
        exact .inr (.inr (.inr ⟨_, member, c.toNat - first, by simp only; omega, within.2, rfl⟩))
      · exact .inl rfl

theorem lowerLetter_of_ascii {c : Char} (ascii : c.toNat < 128) : lowerLetter c = c.toLower := by
  simp [lowerLetter, lowerChar, ascii]

theorem toLower_of_ascii {c : Char} (ascii : c.toNat < 128) :
    (0x60 < c.toNat → c.toLower = c) ∧ (c.toLower = c ∨ (0x60 < c.toLower.toNat ∧ c.toLower.toNat < 128)) := by
  have table : ∀ n < 128, (0x60 < n → (Char.ofNat n).toLower = Char.ofNat n) ∧
      ((Char.ofNat n).toLower = Char.ofNat n ∨
        (0x60 < (Char.ofNat n).toLower.toNat ∧ (Char.ofNat n).toLower.toNat < 128)) := by
    decide
  simpa only [Char.ofNat_toNat] using table c.toNat ascii

/-- Tells whether a run has no code from `low` to `high`, but for those of another parity than `low` if all codes in
    question have that of `low`. -/
def avoids (low high : Nat) (alternate : Bool) (run : Nat × Nat × Nat × Nat) : Bool :=
  Nat.blt high run.1 || Nat.blt run.2.1 low || (alternate && run.2.2.1 == 2 && run.1 % 2 != low % 2)

/-- The codes of lower case in a run are those of characters behind the capital letters of ASCII, neither `İ` nor in a
    run of their own. -/
theorem lowerRuns_avoid :
    (lowerRuns.all fun run =>
      Nat.blt 0x60 run.2.2.2 &&
        (Nat.blt (run.2.2.2 + (run.2.1 - run.1)) 0xD800 ||
          Nat.blt 0xDFFF run.2.2.2 && Nat.blt (run.2.2.2 + (run.2.1 - run.1)) 0x110000) &&
        ((0x130, 0x130, 1, 0) :: lowerRuns).all
          (avoids run.2.2.2 (run.2.2.2 + (run.2.1 - run.1)) (run.2.2.1 == 2 || run.1 == run.2.1))) = true := by
  -- Every pair of runs is compared by its ends, since there are too many letters to look each of them up.
  decide +kernel

theorem not_within_of_avoids {low high n : Nat} {alternate : Bool} {run : Nat × Nat × Nat × Nat}
    (avoid : avoids low high alternate run = true) (above : low ≤ n) (below : n ≤ high)
    (parity : alternate = true → n % 2 = low % 2) :
    ¬ (run.1 ≤ n ∧ n ≤ run.2.1 ∧ (n - run.1) % run.2.2.1 = 0) := by
  simp only [avoids, Bool.or_eq_true, Bool.and_eq_true, Nat.blt_eq, beq_iff_eq, bne_iff_ne] at avoid
  rintro ⟨from_first, to_last, step⟩
  obtain (behind | before) | ⟨⟨alternates, two⟩, odd⟩ := avoid
  · omega
  · omega
  · have parity := parity alternates
    rw [two] at step
    omega

section
variable {run : Nat × Nat × Nat × Nat} (listed : run ∈ lowerRuns) {k : Nat} (within : k ≤ run.2.1 - run.1)
  (step : k % run.2.2.1 = 0)
include listed within

theorem toNat_lower : (Char.ofNat (run.2.2.2 + k)).toNat = run.2.2.2 + k ∧ 0x60 < run.2.2.2 + k := by
  have avoid := List.all_eq_true.mp lowerRuns_avoid run listed
  simp only [Bool.and_eq_true, Bool.or_eq_true, Nat.blt_eq] at avoid
  obtain ⟨⟨behind, valid⟩, -⟩ := avoid
  rw [Char.toNat_ofNat, if_pos (by unfold Nat.isValidChar; omega)]
  exact ⟨rfl, by omega⟩

include step

theorem lowerLetter_lower : lowerLetter (Char.ofNat (run.2.2.2 + k)) = Char.ofNat (run.2.2.2 + k) := by
  obtain ⟨code, behind⟩ := toNat_lower listed within
  have avoid := List.all_eq_true.mp lowerRuns_avoid run listed
  simp only [Bool.and_eq_true] at avoid
  have parity : (run.2.2.1 == 2 || run.1 == run.2.1) = true → (run.2.2.2 + k) % 2 = run.2.2.2 % 2 := by
    simp only [Bool.or_eq_true, beq_iff_eq]
    rintro (two | single)
    · rw [two] at step
      omega
    · omega
  have outside (other : Nat × Nat × Nat × Nat) (member : other ∈ (0x130, 0x130, 1, 0) :: lowerRuns) :=
    not_within_of_avoids (List.all_eq_true.mp avoid.2 other member) (by omega) (by omega) parity
  have dotted : run.2.2.2 + k ≠ 0x130 := fun same => outside _ (.head _) (by simp [same])
  by_cases ascii : run.2.2.2 + k < 128
  · rw [lowerLetter_of_ascii (by omega)]
    exact (toLower_of_ascii (by omega)).1 (by omega)
  · simp only [lowerLetter, lowerChar, code, if_neg ascii, if_neg dotted]
    split
    · rename_i first last distance image found
      have member := List.mem_of_find?_eq_some found
      have within := List.find?_some found
      simp only [Bool.and_eq_true, decide_eq_true_eq, beq_iff_eq] at within
      exact absurd ⟨within.1.1, within.1.2, within.2⟩ (outside _ (.tail _ member))
    · rfl

end

/-- The lower case of a letter is the letter, or one that is in lower case and behind the capital letters of ASCII. -/
theorem lowerLetter_eq_or (c : Char) :
    lowerLetter c = c ∨ (0x60 < (lowerLetter c).toNat ∧ lowerLetter (lowerLetter c) = lowerLetter c) := by
  obtain same | ⟨ascii, lower⟩ | dotless | ⟨run, listed, k, within, step, lower⟩ := lowerLetter_cases c
  · exact .inl same
  · rw [lower]
    obtain same | ⟨behind, ascii'⟩ := (toLower_of_ascii ascii).2
    · exact .inl same
    · exact .inr ⟨behind, by rw [lowerLetter_of_ascii ascii', (toLower_of_ascii ascii').1 behind]⟩
  · rw [dotless]
    exact .inr (by decide)
  · rw [lower]
    obtain ⟨code, behind⟩ := toNat_lower listed within
    exact .inr ⟨by rwa [code], lowerLetter_lower listed within step⟩

@[simp] theorem lowerLetter_lowerLetter (c : Char) : lowerLetter (lowerLetter c) = lowerLetter c := by
  obtain same | ⟨-, fixed⟩ := lowerLetter_eq_or c
  · rw [same, same]
  · exact fixed

/-- Holds for characters in lower case that stand before its letters, so that they are that of no other character. -/
structure Mark (d : Char) : Prop where
  before_letters : d.toNat < 0x61
  lower : lowerLetter d = d

theorem Mark.lowerLetter_eq_iff {d : Char} (mark : Mark d) (c : Char) : lowerLetter c = d ↔ c = d := by
  constructor
  · rintro rfl
    obtain same | ⟨behind, -⟩ := lowerLetter_eq_or c
    · exact same.symm
    · have before := mark.before_letters
      omega
  · rintro rfl
    exact mark.lower

/-! ## Texts -/

theorem length_lowerFrom (before text : List Char) :
    (lowerFrom before text).length = text.length + text.count 'İ' := by
  induction text generalizing before with
  | nil => rfl
  | cons c rest ih =>
    rw [lowerFrom, List.length_append, ih, List.length_cons, List.count_cons]
    by_cases sigma : c = 'Σ'
    · subst sigma
      simp
      omega
    · by_cases dotted : c = 'İ'
      · subst dotted
        have image : lowerChar 'İ' = ['i', '\u0307'] := rfl
        simp [image]
        omega
      · simp [sigma, dotted, lowerChar_eq dotted]
        omega

namespace Mark
variable {d : Char} (mark : Mark d)
include mark

theorem count_map_lowerLetter (text : List Char) : (text.map lowerLetter).count d = text.count d := by
  induction text with
  | nil => rfl
  | cons c rest ih => simp only [List.map_cons, List.count_cons, ih, beq_iff_eq, mark.lowerLetter_eq_iff]

theorem count_map_lowerFrom (before text : List Char) :
    ((lowerFrom before text).map lowerLetter).count d = text.count d := by
  have other {c : Char} (letter : 0x60 < c.toNat) : c ≠ d := by
    rintro rfl
    have before := mark.before_letters
    omega
  induction text generalizing before with
  | nil => rfl
  | cons c rest ih =>
    rw [lowerFrom, List.map_append, List.count_append, ih, List.count_cons, Nat.add_comm]
    refine congrArg (rest.count d + ·) ?_
    by_cases sigma : c = 'Σ'
    · subst sigma
      have small : lowerLetter 'σ' = 'σ' ∧ lowerLetter 'ς' = 'ς' := by decide +kernel
      have unequal : 'Σ' ≠ d ∧ 'σ' ≠ d ∧ 'ς' ≠ d := ⟨other (by decide), other (by decide), other (by decide)⟩
      cases startsCased before <;> cases startsCased rest <;> simp [small, unequal]
    · by_cases dotted : c = 'İ'
      · subst dotted
        have image : (lowerChar 'İ').map lowerLetter = ['i', '\u0307'] := by decide +kernel
        have unequal : 'İ' ≠ d ∧ 'i' ≠ d ∧ '\u0307' ≠ d := ⟨other (by decide), other (by decide), other (by decide)⟩
        simp [image, unequal]
      · simp [sigma, lowerChar_eq dotted, List.count_singleton, mark.lowerLetter_eq_iff]

theorem mem_map_lowerLetter_iff (text : List Char) : d ∈ text.map lowerLetter ↔ d ∈ text := by
  rw [← List.count_pos_iff, mark.count_map_lowerLetter, List.count_pos_iff]

theorem mem_map_lowerFrom_iff (before text : List Char) : d ∈ (lowerFrom before text).map lowerLetter ↔ d ∈ text := by
  rw [← List.count_pos_iff, mark.count_map_lowerFrom, List.count_pos_iff]

end Mark

theorem finalSigma_cons {before rest : List Char} {c : Char} :
    FinalSigma before (c :: rest) ↔
      (c = 'Σ' ∧ startsCased before = true ∧ startsCased rest = false) ∨ FinalSigma (c :: before) rest := by
  constructor
  · rintro ⟨front, behind, text_eq, cased, ends⟩
    cases front with
    | nil =>
      cases text_eq
      exact .inl ⟨rfl, cased, ends⟩
    | cons d front =>
      cases text_eq
      exact .inr ⟨front, behind, rfl, by simpa using cased, ends⟩
  · rintro (⟨rfl, cased, ends⟩ | ⟨front, behind, rfl, cased, ends⟩)
    · exact ⟨[], rest, rfl, cased, ends⟩
    · exact ⟨c :: front, behind, rfl, by simpa using cased, ends⟩

theorem not_finalSigma_nil (before : List Char) : ¬ FinalSigma before [] := by
  rintro ⟨front, behind, text_eq, -, -⟩
  cases front <;> cases text_eq

/-- The lower case of a text is that of its letters if and only if it has no `İ` and no sigma that ends a word. -/
theorem map_lowerFrom_iff (before text : List Char) :
    (lowerFrom before text).map lowerLetter = text.map lowerLetter ↔ 'İ' ∉ text ∧ ¬ FinalSigma before text := by
  by_cases dotted : 'İ' ∈ text
  · have longer := List.count_pos_iff.mpr dotted
    have lengths := length_lowerFrom before text
    refine iff_of_false (fun same => ?_) fun plain => plain.1 dotted
    have same := congrArg List.length same
    simp only [List.length_map] at same
    omega
  · rw [and_iff_right dotted]
    induction text generalizing before with
    | nil => simp [lowerFrom, not_finalSigma_nil]
    | cons c rest ih =>
      obtain ⟨one, dotted⟩ := not_or.mp (mt List.mem_cons.mpr dotted)
      rw [lowerFrom, finalSigma_cons, List.map_append, not_or, ← ih (c :: before) dotted]
      by_cases sigma : c = 'Σ'
      · subst sigma
        have small : lowerLetter 'Σ' = 'σ' ∧ lowerLetter 'σ' = 'σ' ∧ lowerLetter 'ς' ≠ 'σ' := by decide +kernel
        cases startsCased before <;> cases startsCased rest <;> simp [small]
      · simp [sigma, lowerChar_eq (Ne.symm one)]

end TableGateway
