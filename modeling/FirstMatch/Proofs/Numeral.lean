import FirstMatch.Text.Numeral
import Mathlib.Data.List.TakeWhile
import Mathlib.Data.Nat.Digits.Defs

/-!
# Numerals of ASCII digits

A run of ASCII digits is read as the number that the digits write, unless there are too
many of them.
-/

namespace FirstMatch

namespace CodePoint

variable {c : Nat}

theorem digitValue?_of_ascii (h : isAsciiDigit c = true) :
    digitValue? c = some (c - 0x30) := by
  simp only [isAsciiDigit, Bool.and_eq_true, decide_eq_true_eq] at h
  have hlt : c < 0x30 + 10 := by omega
  simp [digitValue?, zeros, h.1, hlt]

theorem isDigit_of_ascii (h : isAsciiDigit c = true) : isDigit c = true := by
  simp [isDigit, digitValue?_of_ascii h]

end CodePoint

namespace Numeral

variable {c : Nat} {digits : List Nat}

theorem isUnderscore_of_ascii (h : CodePoint.isAsciiDigit c = true) :
    isUnderscore c = false := by
  simp only [CodePoint.isAsciiDigit, Bool.and_eq_true, decide_eq_true_eq] at h
  have hne : c ≠ '_'.toNat := by
    simp only [Char.reduceToNat]
    omega
  simpa [isUnderscore] using hne

theorem isPadding_of_ascii (h : CodePoint.isAsciiDigit c = true) :
    isPadding c = false := by
  simp only [CodePoint.isAsciiDigit, Bool.and_eq_true, decide_eq_true_eq] at h
  have hspace : c ≠ 0x20 := by omega
  have hcontrol : ¬ c ≤ 0x0D := by omega
  have hbeyond : ¬ 0x7F ≤ c := by omega
  simp [isPadding, CodePoint.isAsciiBlank, hspace, hcontrol, hbeyond]

theorem signed_of_ascii
    (h : ∀ c ∈ digits, CodePoint.isAsciiDigit c = true) :
    signed digits = (false, digits) := by
  cases digits with
  | nil => rfl
  | cons c rest =>
      have hc := h c List.mem_cons_self
      simp only [CodePoint.isAsciiDigit, Bool.and_eq_true, decide_eq_true_eq] at hc
      have hminus : c ≠ '-'.toNat := by
        simp only [Char.reduceToNat]
        omega
      have hplus : c ≠ '+'.toNat := by
        simp only [Char.reduceToNat]
        omega
      simp only [signed, beq_iff_eq, hminus, hplus, if_false]

theorem wellSpaced_of_ascii
    (hne : digits ≠ [])
    (h : ∀ c ∈ digits, CodePoint.isAsciiDigit c = true) :
    wellSpaced digits = true := by
  induction digits with
  | nil => exact absurd rfl hne
  | cons c rest ih =>
      have hc := CodePoint.isDigit_of_ascii (h c List.mem_cons_self)
      cases rest with
      | nil => simp [wellSpaced, hc]
      | cons d rest =>
          have hd := isUnderscore_of_ascii (h d (by simp))
          have hrest := ih (by simp) fun e he => h e (List.mem_cons_of_mem c he)
          simp [wellSpaced, hc, hd, hrest]

theorem filterMap_digitValue?_of_ascii
    (h : ∀ c ∈ digits, CodePoint.isAsciiDigit c = true) :
    digits.filterMap CodePoint.digitValue? = digits.map (· - 0x30) := by
  induction digits with
  | nil => rfl
  | cons c rest ih =>
      have hc := CodePoint.digitValue?_of_ascii (h c List.mem_cons_self)
      have hrest := ih fun d hd => h d (List.mem_cons_of_mem c hd)
      simp [hc, hrest]

/-- The number that ASCII digits write in base ten, the last digit being the
least. -/
def ofDigits (t : Text) : Nat :=
  Nat.ofDigits 10 (t.toList.map (· - 0x30)).reverse

theorem value_eq_ofDigits (digits : List Nat) :
    value digits = Nat.ofDigits 10 digits.reverse := by
  rw [Nat.ofDigits_eq_foldr, List.foldr_reverse]
  unfold value
  congr 1
  funext n d
  exact Nat.add_comm (10 * n) d

theorem read_digits
    {t : Text} (hne : t ≠ #[])
    (h : ∀ c ∈ t, CodePoint.isAsciiDigit c = true) :
    read t =
      if t.size ≤ maxDigits then .ok (ofDigits t : Int)
      else .error (.tooLong t.size) := by
  have hall : ∀ c ∈ t.toList, CodePoint.isAsciiDigit c = true := by
    simpa using h
  have hunpadded : t.toList.dropWhile isPadding = t.toList := by
    apply List.dropWhile_eq_self_iff.mpr
    intro hl
    have hhead := isPadding_of_ascii (hall _ (List.getElem_mem hl))
    simpa using hhead
  have hrun : ∀ c ∈ t.toList, (CodePoint.isDigit c || isUnderscore c) = true := by
    intro c hc
    simp [CodePoint.isDigit_of_ascii (hall c hc)]
  have htake := List.takeWhile_eq_self_iff.mpr hrun
  have hdrop := List.dropWhile_eq_nil_iff.mpr hrun
  have hspaced : wellSpaced t.toList = true :=
    wellSpaced_of_ascii (by simpa using hne) hall
  unfold read
  simp only [hunpadded, signed_of_ascii hall, htake, hdrop, hspaced,
    filterMap_digitValue?_of_ascii hall, List.length_map, Array.length_toList]
  by_cases hlong : t.size ≤ maxDigits
  · have hnot : ¬ maxDigits < t.size := by omega
    simp [hlong, hnot, ofDigits, value_eq_ofDigits]
  · have hlt : maxDigits < t.size := by omega
    simp [hlong, hlt]

end Numeral

end FirstMatch
