import ChatService.Json.Printer
import ChatService.Text.Blank
import ChatService.Text.Number
import Mathlib.Algebra.Group.Nat.Defs

/-!
# Decimal digits read back

A whole number is read back from the digits that it is written with, so two numbers that are
written alike are one.
-/

namespace ChatService.Text

open Json (natChars intChars)

variable {c : Char} {digits rest : List Char}

/-! ## digits in front of other characters -/

theorem takeWhile_isDigit (hdigits : ∀ c ∈ digits, c.isDigit = true)
    (hrest : rest.takeWhile Char.isDigit = []) :
    (digits ++ rest).takeWhile Char.isDigit = digits := by
  rw [List.takeWhile_append_of_pos hdigits, hrest, List.append_nil]

theorem takeWhile_isDigit_eq_nil (h : ∀ c, rest.head? = some c → c.isDigit = false) :
    rest.takeWhile Char.isDigit = [] := by
  cases rest with
  | nil => rfl
  | cons c rest => rw [List.takeWhile_cons, h c rfl]; rfl

theorem dropWhile_isDigit (hdigits : ∀ c ∈ digits, c.isDigit = true)
    (hrest : rest.takeWhile Char.isDigit = []) :
    (digits ++ rest).dropWhile Char.isDigit = rest := by
  have hsplit : rest.takeWhile Char.isDigit ++ rest.dropWhile Char.isDigit = rest :=
    List.takeWhile_append_dropWhile
  rw [hrest, List.nil_append] at hsplit
  rw [List.dropWhile_append_of_pos hdigits, hsplit]

theorem isDigit_eq (c : Char) :
    c.isDigit = (decide (0x30 ≤ c.toNat) && decide (c.toNat ≤ 0x39)) := by
  simp [Char.isDigit, UInt32.le_iff_toNat_le]

theorem toNat_of_isDigit (h : c.isDigit = true) : 48 ≤ c.toNat ∧ c.toNat ≤ 57 := by
  simpa [Char.isDigit, UInt32.le_iff_toNat_le] using h

theorem isBlankChar_of_isDigit (h : c.isDigit = true) : isBlankChar c = false := by
  have hrange := toNat_of_isDigit h
  rw [isBlankChar, inRanges, List.any_eq_false]
  intro range hmem
  simp only [blankRanges, List.mem_cons, List.not_mem_nil, or_false] at hmem
  rcases hmem with rfl | rfl | rfl | rfl | rfl | rfl | rfl | rfl | rfl | rfl <;> simp <;> omega

theorem trimStart_cons (h : isBlankChar c = false) : trimStart (c :: rest) = c :: rest :=
  List.dropWhile_cons_of_neg (by rw [h]; exact Bool.false_ne_true)

theorem trimStart_digits (hne : digits ≠ []) (hdigits : ∀ c ∈ digits, c.isDigit = true) :
    trimStart (digits ++ rest) = digits ++ rest := by
  cases digits with
  | nil => contradiction
  | cons d ds => exact trimStart_cons (isBlankChar_of_isDigit (hdigits d List.mem_cons_self))

/-! ## whole numbers -/

theorem digitsValue_natChars (n : Nat) : digitsValue (natChars n) = n := by
  have hcore : Nat.ofDigitChars 10 (natChars n) 0 = n := Nat.ofDigitChars_ten_toDigits
  rw [Nat.ofDigitChars_eq_foldl] at hcore
  unfold digitsValue digitValue
  simpa only [Nat.mul_comm] using hcore

theorem isDigit_of_mem_natChars {n : Nat} (h : c ∈ natChars n) : c.isDigit = true :=
  Nat.isDigit_of_mem_toDigits (by omega) (by omega) h

theorem natChars_ne_nil (n : Nat) : natChars n ≠ [] := Nat.toDigits_ne_nil

theorem digitValue_lt (h : c.isDigit = true) : digitValue c < 10 := by
  have hrange := toNat_of_isDigit h
  exact show c.toNat - 48 < 10 by omega

theorem foldl_digitValue_lt (hdigits : ∀ c ∈ digits, c.isDigit = true) (n : Nat) :
    digits.foldl (fun n c => n * 10 + digitValue c) n < (n + 1) * 10 ^ digits.length := by
  induction digits generalizing n with
  | nil => simp
  | cons d ds ih =>
      have hdigit := digitValue_lt (hdigits d List.mem_cons_self)
      calc ds.foldl (fun n c => n * 10 + digitValue c) (n * 10 + digitValue d)
          < (n * 10 + digitValue d + 1) * 10 ^ ds.length :=
            ih (fun c h => hdigits c (List.mem_cons_of_mem d h)) _
        _ ≤ ((n + 1) * 10) * 10 ^ ds.length := Nat.mul_le_mul_right _ (by omega)
        _ = (n + 1) * 10 ^ (d :: ds).length := by
            rw [Nat.mul_assoc, List.length_cons, Nat.pow_succ']

/-- More digits at the end never make a number smaller. -/
theorem digitsValue_le_append (digits more : List Char) :
    digitsValue digits ≤ digitsValue (digits ++ more) := by
  have hgrows : ∀ n, n ≤ more.foldl (fun n c => n * 10 + digitValue c) n := by
    induction more with
    | nil => exact Nat.le_refl
    | cons c more ih =>
        have hstep : ∀ n, n ≤ n * 10 + digitValue c := fun n => by omega
        exact fun n => Nat.le_trans (hstep n) (ih _)
  unfold digitsValue
  rw [List.foldl_append]
  exact hgrows _

/-- A number of more than one digit does not begin with a zero. -/
theorem natChars_ne_zero_cons (n : Nat) (d : Char) (ds : List Char) :
    natChars n ≠ '0' :: d :: ds := by
  intro heq
  have hvalue : digitsValue (d :: ds) = n := by
    have hvalue := digitsValue_natChars n
    rw [heq] at hvalue
    exact hvalue
  have hdigits : ∀ c ∈ d :: ds, c.isDigit = true := fun c h =>
    isDigit_of_mem_natChars (n := n) (heq ▸ List.mem_cons_of_mem _ h)
  have hlt : n < 10 ^ (d :: ds).length := by
    have hlt := foldl_digitValue_lt hdigits 0
    rw [Nat.zero_add, Nat.one_mul] at hlt
    exact hvalue ▸ hlt
  have hlength : (natChars n).length ≤ (d :: ds).length :=
    (Nat.length_toDigits_le_iff (by omega) (Nat.succ_pos _)).mpr hlt
  rw [heq] at hlength
  exact Nat.not_succ_le_self _ hlength

theorem digits?_natChars (n : Nat) : digits? (natChars n) = some n := by
  have hall : (natChars n).all Char.isDigit = true :=
    List.all_eq_true.mpr fun _ => isDigit_of_mem_natChars
  simp [digits?, hall, natChars_ne_nil, digitsValue_natChars]

theorem natural?_natChars (n : Nat) : natural? (natChars n) = some n := by
  cases hchars : natChars n with
  | nil => exact absurd hchars (natChars_ne_nil n)
  | cons c cs =>
      have hdigit : c.isDigit = true := isDigit_of_mem_natChars (hchars ▸ List.mem_cons_self)
      have hplus : c ≠ '+' := fun heq => by simp [heq] at hdigit
      rw [natural?.eq_2 _ fun rest heq => hplus (List.cons.inj heq).1, ← hchars, digits?_natChars]

theorem integer?_intChars (n : Int) : integer? (intChars n) = some n := by
  unfold intChars
  split
  · next hneg =>
      have habs : -(n.natAbs : Int) = n := by omega
      rw [integer?, digits?_natChars]
      exact congrArg some habs
  · next hnonneg =>
      have habs : (n.natAbs : Int) = n := by omega
      have hhead : (natChars n.natAbs).head? ≠ some '-' := fun hhead =>
        absurd (isDigit_of_mem_natChars (List.mem_of_head? hhead)) (by decide)
      rw [integer?_eq_natural? hhead, natural?_natChars]
      exact congrArg some habs

theorem intChars_inj {m n : Int} : intChars m = intChars n ↔ m = n := by
  refine ⟨fun h => ?_, congrArg intChars⟩
  have hread := integer?_intChars m
  rw [h, integer?_intChars] at hread
  exact (Option.some.inj hread).symm

/-- A number is written with digits and perhaps a minus sign. -/
theorem isDigit_or_eq_of_mem_intChars {n : Int} (h : c ∈ intChars n) :
    c.isDigit = true ∨ c = '-' := by
  unfold intChars at h
  split at h
  · exact (List.mem_cons.mp h).symm.imp_left isDigit_of_mem_natChars
  · exact .inl (isDigit_of_mem_natChars h)

theorem toList_repr (n : Int) : n.repr.toList = intChars n := by
  unfold intChars natChars
  rw [Int.repr_eq_if]
  by_cases hneg : n < 0
  · have habs : (-n).toNat = n.natAbs := by omega
    rw [if_neg (by omega), if_pos hneg, habs, String.toList_append, Nat.toList_repr]
    rfl
  · have habs : n.toNat = n.natAbs := by omega
    rw [if_pos (by omega), if_neg hneg, habs, Nat.toList_repr]

end ChatService.Text
