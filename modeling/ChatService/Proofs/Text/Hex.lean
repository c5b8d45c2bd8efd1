import ChatService.Text.Hex
import Mathlib.Algebra.Group.Nat.Defs

/-!
# Hexadecimal digits as an order

Digits of a fixed width read back as the number they were written from, and compare as texts the
way their numbers compare.  Both stores rely on it: internal ids are written with 24 digits, so
that no two numbers share an id and sorting by id is sorting by number.
-/

namespace ChatService.Text

/-! ## reading back -/

theorem hexNumber?_append_singleton (cs : List Char) (c : Char) :
    hexNumber? (cs ++ [c]) =
      (hexNumber? cs).bind fun n => (hexValue? c).map (n * 16 + ·) := by
  rw [hexNumber?, List.foldlM_append, ← hexNumber?]
  cases hexNumber? cs <;> simp

/-- Digits that are wide enough read back as their number. -/
theorem hexNumber?_hexDigits {width n : Nat} (h : n < 16 ^ width) :
    hexNumber? (hexDigits width n) = some n := by
  induction width generalizing n with
  | zero =>
      have : n = 0 := by simpa using h
      subst this
      rfl
  | succ width ih =>
      have hdiv : n / 16 < 16 ^ width := by
        rw [Nat.pow_succ] at h
        omega
      rw [hexDigits, hexNumber?_append_singleton, ih hdiv, Option.bind_some,
        hexValue?_hexDigit _ (Nat.mod_lt n (by decide)), Option.map_some]
      congr 1
      omega

theorem hexDigits_inj {width m n : Nat} (hm : m < 16 ^ width) (hn : n < 16 ^ width) :
    hexDigits width m = hexDigits width n ↔ m = n := by
  refine ⟨fun h => ?_, fun h => h ▸ rfl⟩
  have hread := congrArg hexNumber? h
  rw [hexNumber?_hexDigits hm, hexNumber?_hexDigits hn] at hread
  exact Option.some.inj hread

/-! ## order -/

theorem hexDigit_lt : ∀ i, i < 16 → ∀ j, j < i → hexDigit j < hexDigit i := by decide

/-- Of two texts of equal length, the one that starts with the smaller text is smaller. -/
theorem append_lt_append_of_lt {xs ys : List Char} (zs ws : List Char)
    (hlen : xs.length = ys.length) (h : xs < ys) : xs ++ zs < ys ++ ws := by
  induction xs generalizing ys with
  | nil => cases ys with
    | nil => simp at h
    | cons y ys => simp at hlen
  | cons x xs ih => cases ys with
    | nil => simp at hlen
    | cons y ys =>
        rw [List.cons_append, List.cons_append, List.cons_lt_cons_iff]
        obtain hlt | ⟨rfl, hlt⟩ := List.cons_lt_cons_iff.mp h
        · exact .inl hlt
        · exact .inr ⟨rfl, ih (by simpa using hlen) hlt⟩

theorem hexDigits_lt_hexDigits {width m n : Nat} (hn : n < 16 ^ width) (h : m < n) :
    hexDigits width m < hexDigits width n := by
  induction width generalizing m n with
  | zero =>
      have : n = 0 := by simpa using hn
      omega
  | succ width ih =>
      rw [Nat.pow_succ] at hn
      simp only [hexDigits]
      by_cases hdiv : m / 16 < n / 16
      · have hlen : (hexDigits width (m / 16)).length = (hexDigits width (n / 16)).length := by
          rw [length_hexDigits, length_hexDigits]
        exact append_lt_append_of_lt _ _ hlen (ih (by omega) hdiv)
      · have heq : m / 16 = n / 16 := by omega
        have hlast : hexDigit (m % 16) < hexDigit (n % 16) :=
          hexDigit_lt _ (Nat.mod_lt n (by decide)) _ (by omega)
        rw [heq]
        exact List.append_left_lt (List.cons_lt_cons_iff.mpr (.inl hlast))

end ChatService.Text
