import Mathlib.Algebra.Order.Field.Power
import Mathlib.Data.Rat.Cast.Order
import Mathlib.Tactic.Linarith
import Mathlib.Tactic.NormNum
import Mathlib.Tactic.Positivity
import Scaffold.Duration

set_option autoImplicit false

/-!
# Seconds that are shown

The seconds of a duration stay below sixty wherever they are counted whole: of a duration of a
minute or more, and of a whole number of seconds. Below a minute they are rounded to tenths after
it is settled that there is no minute, and so the last half tenth before a minute is shown as sixty
seconds.
-/
namespace Scaffold.Number

variable {x : ℚ} {t num den : ℕ} {b : Binary}

/-! ### Rounding -/

/-- The whole number next to a fraction, of two the even one. -/
structure Nearest (x : ℚ) (t : ℕ) : Prop where
  close : |x - t| ≤ 1 / 2
  even : |x - t| = 1 / 2 → Even t

theorem Nearest.of_lt (h : |x - t| < 1 / 2) : Nearest x t :=
  ⟨h.le, fun heq => absurd heq h.ne⟩

theorem Nearest.of_eq (h : |x - t| = 1 / 2) (ht : Even t) : Nearest x t :=
  ⟨h.le, fun _ => ht⟩

theorem roundDiv_nearest (num : ℕ) (hden : 0 < den) :
    Nearest ((num : ℚ) / den) (roundDiv num den) := by
  have hpos : (0 : ℚ) < den := by exact_mod_cast hden
  have hnum : (num : ℚ) = den * (num / den : ℕ) + (num % den : ℕ) := by
    exact_mod_cast (Nat.div_add_mod num den).symm
  have hrest : (num % den : ℕ) < (den : ℚ) := by exact_mod_cast Nat.mod_lt num hden
  have hnonneg : (0 : ℚ) ≤ (num % den : ℕ) := Nat.cast_nonneg _
  have hbelow : |(num : ℚ) / den - (num / den : ℕ)| = (num % den : ℕ) / (den : ℚ) := by
    rw [hnum, add_div, mul_div_cancel_left₀ _ hpos.ne', add_sub_cancel_left,
      abs_of_nonneg (by positivity)]
  have habove : |(num : ℚ) / den - (num / den + 1 : ℕ)| = 1 - (num % den : ℕ) / (den : ℚ) := by
    have hless : (num % den : ℕ) / (den : ℚ) < 1 := (div_lt_one hpos).2 hrest
    rw [hnum, add_div, mul_div_cancel_left₀ _ hpos.ne', Nat.cast_add, Nat.cast_one,
      add_sub_add_left_eq_sub, abs_of_neg (by linarith), neg_sub]
  unfold roundDiv
  simp only
  split_ifs with hlow hhigh heven
  · have hlow : 2 * ((num % den : ℕ) : ℚ) < den := by exact_mod_cast hlow
    refine .of_lt ?_
    rw [hbelow, div_lt_iff₀ hpos]
    linarith
  · have hhigh : (den : ℚ) < 2 * (num % den : ℕ) := by exact_mod_cast hhigh
    refine .of_lt ?_
    rw [habove, sub_lt_comm, lt_div_iff₀ hpos]
    linarith
  all_goals
    have htie : (num % den : ℕ) / (den : ℚ) = 1 / 2 := by
      have hden : (den : ℚ) = 2 * (num % den : ℕ) := by exact_mod_cast (by omega : den = _)
      rw [div_eq_iff hpos.ne']
      linarith
  · exact .of_eq (hbelow.trans htie) (Nat.even_iff.2 heven)
  · exact .of_eq (habove.trans (by rw [htie]; norm_num)) (Nat.even_iff.2 (by omega))

/-- A fraction of at most so many steps and a half is rounded to at most so many steps, if that
many is odd: at the half, the even number above it is taken. -/
theorem Nearest.le_iff (h : Nearest x t) {k : ℕ} (hk : ¬ Even k) :
    t ≤ k ↔ x < k + 1 / 2 := by
  obtain ⟨hlow, hhigh⟩ := abs_le.1 h.close
  constructor
  · intro htk
    have htk' : (t : ℚ) ≤ k := by exact_mod_cast htk
    refine lt_of_le_of_ne (by linarith) fun heq => hk ?_
    have htie : t = k := by
      have hkt : (k : ℚ) ≤ t := by linarith
      exact le_antisymm htk (by exact_mod_cast hkt)
    subst htie
    exact h.even (by rw [heq, add_sub_cancel_left, abs_of_pos (by norm_num)])
  · intro hx
    have htk : (t : ℚ) < (k + 1 : ℕ) := by
      push_cast
      linarith
    exact Nat.lt_succ_iff.1 (by exact_mod_cast htk)

/-! ### Numbers of double precision -/

def Binary.value (b : Binary) : ℚ := (if b.negative then -1 else 1) * (b.mantissa * 2 ^ b.exponent)

theorem scaled_ratio (n : ℕ) (e : ℤ) :
    0 < (scaled n e).2 ∧ ((scaled n e).1 : ℚ) / (scaled n e).2 = n * 2 ^ e := by
  unfold scaled
  split_ifs with he
  · obtain ⟨k, rfl⟩ := Int.eq_ofNat_of_zero_le he
    simp
  · obtain ⟨k, hk⟩ := Int.eq_ofNat_of_zero_le (by omega : 0 ≤ -e)
    obtain rfl : e = -k := by omega
    simp [div_eq_mul_inv]

theorem Binary.ratio_of_positive (h : b.negative = false) :
    0 < b.ratio.2 ∧ (b.ratio.1 : ℚ) / b.ratio.2 = b.value := by
  have hscaled := scaled_ratio b.mantissa b.exponent
  simpa [ratio, value, h] using hscaled

theorem Binary.value_of_negative (h : b.negative = true) (hvalue : 0 ≤ b.value) : b.value = 0 := by
  have hsize : (0 : ℚ) ≤ b.mantissa * 2 ^ b.exponent := by positivity
  simp only [value, h, if_true] at hvalue ⊢
  linarith

end Scaffold.Number

namespace Scaffold.Duration
open Number

variable {b : Binary} {num den : ℕ}

/-! ### What is shown -/

theorem tenthsText_one (n : ℕ) : tenthsText n 1 = toString n ++ ".0s" := by
  have htenths : roundDiv (10 * n) 1 = 10 * n := by simp [roundDiv, Nat.mod_one]
  have hwhole : 10 * n / 10 = n := by omega
  have htenth : 10 * n % 10 = 0 := by omega
  rw [tenthsText, htenths, hwhole, htenth, String.append_assoc, String.append_assoc]
  rfl

theorem textOfInt_below {n : ℕ} (h : n < 60) : textOfInt n = .ok (toString n ++ ".0s") := by
  rw [← tenthsText_one]
  exact if_pos h

theorem textOfInt_above {n : ℕ} (h : 60 ≤ n) :
    textOfInt n =
      if exceedsLimit (n / 60 : ℕ) then .error tooLongToWrite
      else .ok (minutesText (n / 60) (n % 60)) :=
  if_neg (by omega)

theorem textOfDouble_below (hvalue : 0 ≤ b.value) (h : b.value < 60) :
    ∃ t : ℕ, Nearest (10 * b.value) t ∧
      textOfDouble (.finite b) = .ok (toString (t / 10) ++ "." ++ toString (t % 10) ++ "s") := by
  cases hsign : b.negative with
  | false =>
    obtain ⟨hden, hratio⟩ := Binary.ratio_of_positive hsign
    have hpos : (0 : ℚ) < b.ratio.2 := by exact_mod_cast hden
    have hbelow : b.ratio.1 < 60 * b.ratio.2 := by
      rw [← hratio, div_lt_iff₀ hpos] at h
      exact_mod_cast h
    refine ⟨roundDiv (10 * b.ratio.1) b.ratio.2, ?_, ?_⟩
    · have hnearest := roundDiv_nearest (10 * b.ratio.1) hden
      rwa [Nat.cast_mul, mul_div_assoc, hratio] at hnearest
    · simp only [textOfDouble, hsign, textOfRatio, if_pos hbelow, tenthsText]
      rfl
  | true =>
    have hzero := Binary.value_of_negative hsign hvalue
    refine ⟨0, .of_lt (by rw [hzero]; norm_num), ?_⟩
    simp only [textOfDouble, hsign, if_true, tenthsText_one]
    rfl

/-- The minutes and seconds of a whole number make it up again, and there are less than sixty
seconds. Below a minute, a number of double precision is shown to the nearest tenth, of two the even
one: that is 59.9 seconds at most just if the number is below 59.95, and sixty seconds else. -/
theorem seconds_shown (n : ℕ) (hvalue : 0 ≤ b.value) (hbelow : b.value < 60) :
    (n < 60 → textOfInt n = .ok (toString n ++ ".0s")) ∧
    (60 ≤ n → ∃ minutes seconds : ℕ, 60 * minutes + seconds = n ∧ seconds < 60 ∧
      textOfInt n =
        if exceedsLimit minutes then .error tooLongToWrite
        else .ok (toString minutes ++ "m " ++ toString seconds ++ "s")) ∧
    ∃ tenths : ℕ, Nearest (10 * b.value) tenths ∧
      textOfDouble (.finite b) =
        .ok (toString (tenths / 10) ++ "." ++ toString (tenths % 10) ++ "s") ∧
      (tenths ≤ 599 ↔ b.value < 59.95) ∧ tenths ≤ 600 := by
  refine ⟨textOfInt_below, fun hn => ?_, ?_⟩
  · exact ⟨n / 60, n % 60, Nat.div_add_mod n 60, Nat.mod_lt n (by omega), textOfInt_above hn⟩
  · obtain ⟨t, hnearest, htext⟩ := textOfDouble_below hvalue hbelow
    have hedge : (10 * b.value < (599 : ℕ) + 1 / 2) ↔ b.value < 59.95 := by
      push_cast
      constructor <;> intro h <;> linarith
    have hunder : (t : ℚ) < (601 : ℕ) := by
      have hclose := (abs_le.1 hnearest.close).1
      push_cast
      linarith
    refine ⟨t, hnearest, htext, (hnearest.le_iff (by decide)).trans hedge, ?_⟩
    exact Nat.lt_succ_iff.1 (by exact_mod_cast hunder)

def shortOfMinute : Binary := ⟨false, 8430175552484147, -47⟩

theorem shortOfMinute_shown :
    Double.ofBits 0x404DF33333333333 = .finite shortOfMinute ∧
      0 ≤ shortOfMinute.value ∧ shortOfMinute.value < 60 ∧
      textOfInt (59 : ℕ) = .ok "59.0s" ∧ textOfInt (3661 : ℕ) = .ok "61m 1s" ∧
      ∃ tenths : ℕ, tenths ≤ 599 ∧ textOfDouble (.finite shortOfMinute) =
        .ok (toString (tenths / 10) ++ "." ++ toString (tenths % 10) ++ "s") := by
  have hvalue : 0 ≤ shortOfMinute.value ∧ shortOfMinute.value < 59.95 := by
    norm_num [shortOfMinute, Binary.value]
  have hbelow : shortOfMinute.value < 60 := by linarith
  obtain ⟨hwhole, -⟩ := seconds_shown 59 hvalue.1 hbelow
  obtain ⟨-, hminutes, tenths, -, hshown, hless, -⟩ := seconds_shown 3661 hvalue.1 hbelow
  obtain ⟨minutes, seconds, hsum, hseconds, htext⟩ := hminutes (by decide)
  obtain ⟨rfl, rfl⟩ : minutes = 61 ∧ seconds = 1 := by omega
  exact ⟨by decide +kernel, hvalue.1, hbelow, hwhole (by decide), htext.trans (by decide +kernel),
    tenths, hless.2 hvalue.2, hshown⟩

theorem sixty_seconds_shown :
    ∃ b : Binary, Double.ofBits 0x404DFC0000000000 = .finite b ∧ b.value = 59.96875 ∧
      textOfDouble (.finite b) = .ok "60.0s" := by
  refine ⟨⟨false, 8439851254808576, -47⟩, by decide +kernel, ?_, by decide +kernel⟩
  norm_num [Binary.value]

end Scaffold.Duration
