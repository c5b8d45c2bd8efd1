import ChatService.Proofs.Text.Decimal
import ChatService.Proofs.Time.Calendar
import ChatService.Time.Rfc3339

/-!
# Timestamps read back

A timestamp that can be written is read back from its text.  Every part has a width of its own or
ends in front of a mark, so the reader takes off exactly what was written; the calendar then gives
the day back from its date, and the sixtieth second the leap second.
-/

namespace ChatService.Timestamp

open Duration (placesChars)
open Text (digitsValue)

variable {digits rest : List Char} {n width : Nat} {t : Timestamp}

/-! ## places -/

theorem length_placesChars (width n : Nat) : (placesChars width n).length = width := by
  induction width generalizing n with
  | zero => rfl
  | succ width ih =>
      have hlast : (Nat.toDigits 10 (n % 10)).length = 1 := by
        rw [Nat.toDigits_of_lt_base (by omega)]
        rfl
      rw [placesChars, List.length_append, ih, hlast]

theorem isDigit_of_mem_placesChars (width n : Nat) :
    ∀ c ∈ placesChars width n, c.isDigit = true := by
  induction width generalizing n with
  | zero => exact fun c h => absurd h List.not_mem_nil
  | succ width ih =>
      intro c h
      rcases List.mem_append.mp h with h | h
      · exact ih _ c h
      · exact Text.isDigit_of_mem_natChars h

theorem digitsValue_placesChars (width n : Nat) :
    digitsValue (placesChars width n) = n % 10 ^ width := by
  induction width generalizing n with
  | zero => exact (Nat.mod_one n).symm
  | succ width ih =>
      have hlast : Text.digitValue (Nat.digitChar (n % 10)) = n % 10 := by
        have hvalue := Text.digitsValue_natChars (n % 10)
        unfold Json.natChars at hvalue
        rw [Nat.toDigits_of_lt_base (by omega)] at hvalue
        simpa [digitsValue] using hvalue
      rw [placesChars, Nat.toDigits_of_lt_base (by omega), Text.digitsValue_append_singleton, ih,
        hlast, Nat.pow_succ, Nat.mul_comm (10 ^ width) 10, Nat.mod_mul]
      omega

theorem placesChars_ne_nil (h : 0 < width) (n : Nat) : placesChars width n ≠ [] :=
  List.ne_nil_of_length_pos (by rw [length_placesChars]; exact h)

/-! ## parts -/

theorem readDigits?_append (hne : digits ≠ []) (hdigits : ∀ c ∈ digits, c.isDigit = true)
    (htake : ((digits ++ rest).take width).takeWhile Char.isDigit = digits) :
    readDigits? width (digits ++ rest) = some (digitsValue digits, rest) := by
  unfold readDigits?
  rw [htake]
  cases digits with
  | nil => contradiction
  | cons d ds => exact congrArg (fun rest => some (digitsValue (d :: ds), rest)) List.drop_left

/-- As many digits as are read at most. -/
theorem readDigits?_places (h : 0 < width) (n : Nat) (rest : List Char) :
    readDigits? width (placesChars width n ++ rest) = some (n % 10 ^ width, rest) := by
  have hdigits := isDigit_of_mem_placesChars width n
  rw [readDigits?_append (placesChars_ne_nil h n) hdigits, digitsValue_placesChars]
  rw [List.take_left' (length_placesChars width n)]
  simpa using Text.takeWhile_isDigit hdigits
    (show ([] : List Char).takeWhile Char.isDigit = [] from rfl)

/-- Any number of digits in front of something else. -/
theorem readDigits?_all (hne : digits ≠ []) (hdigits : ∀ c ∈ digits, c.isDigit = true)
    (hrest : rest.takeWhile Char.isDigit = []) (hwidth : (digits ++ rest).length ≤ width) :
    readDigits? width (digits ++ rest) = some (digitsValue digits, rest) :=
  readDigits?_append hne hdigits <| by
    rw [List.take_of_length_le hwidth, Text.takeWhile_isDigit hdigits hrest]

theorem readTwo?_places (h : n < 100) (rest : List Char) :
    readTwo? (placesChars 2 n ++ rest) = some (n, rest) := by
  have hmod : n % 10 ^ 2 = n := Nat.mod_eq_of_lt h
  unfold readTwo?
  rw [Text.trimStart_digits (placesChars_ne_nil (by omega) n) (isDigit_of_mem_placesChars 2 n),
    readDigits?_places (by omega), hmod]

theorem readMark?_cons {mark : Char} (h : Text.isBlankChar mark = false) (rest : List Char) :
    readMark? mark (mark :: rest) = some rest := by
  unfold readMark?
  rw [Text.trimStart_cons h]
  exact if_pos rfl

/-! ## years -/

/-- The digits of a year with a sign: zeros in front of the number. -/
theorem digitsValue_padded (zeros n : Nat) :
    digitsValue (List.replicate zeros '0' ++ Json.natChars n) = n := by
  have hzeros : (List.replicate zeros '0').foldl (fun n c => n * 10 + Text.digitValue c) 0 = 0 := by
    induction zeros with
    | zero => rfl
    | succ zeros ih => exact ih
  unfold digitsValue
  rw [List.foldl_append, hzeros]
  exact Text.digitsValue_natChars n

theorem readDigits?_padded (zeros n : Nat) (hrest : rest.takeWhile Char.isDigit = []) :
    readDigits? (List.replicate zeros '0' ++ Json.natChars n ++ rest).length
      (List.replicate zeros '0' ++ Json.natChars n ++ rest) = some (n, rest) := by
  rw [readDigits?_all _ _ hrest (Nat.le_refl _), digitsValue_padded]
  · exact List.append_ne_nil_of_right_ne_nil _ (Text.natChars_ne_nil n)
  · intro c h
    rcases List.mem_append.mp h with h | h
    · rw [List.eq_of_mem_replicate h]
      rfl
    · exact Text.isDigit_of_mem_natChars h

theorem readYear?_yearChars (year : Int) (hrest : rest.takeWhile Char.isDigit = []) :
    readYear? (yearChars year ++ rest) = some (year, rest) := by
  unfold yearChars readYear?
  by_cases hplain : 0 ≤ year ∧ year ≤ 9999
  · have hyear : (year.toNat % 10 ^ 4 : Nat) = year := by omega
    have hread := readDigits?_places (show 0 < 4 by omega) year.toNat rest
    rw [if_pos hplain, Text.trimStart_digits (placesChars_ne_nil (by omega) _)
      (isDigit_of_mem_placesChars 4 _)]
    have hdigits := isDigit_of_mem_placesChars 4 year.toNat
    cases hchars : placesChars 4 year.toNat with
    | nil => exact absurd hchars (placesChars_ne_nil (by omega) _)
    | cons d ds =>
        have hdigit : d.isDigit = true := hdigits d (hchars ▸ List.mem_cons_self)
        rw [hchars] at hread
        split
        · next heq => rw [(List.cons.inj heq).1] at hdigit; contradiction
        · next heq => rw [(List.cons.inj heq).1] at hdigit; contradiction
        · rw [hread]
          exact congrArg (fun year => some (year, rest)) hyear
  · rw [if_neg hplain]
    dsimp only
    by_cases hneg : year < 0
    · have hyear : -(year.natAbs : Int) = year := by omega
      rw [if_pos hneg, List.cons_append, Text.trimStart_cons (by decide)]
      change Option.map _ (readDigits? _ _) = _
      rw [readDigits?_padded _ _ hrest]
      exact congrArg (fun year => some (year, rest)) hyear
    · have hyear : (year.natAbs : Int) = year := by omega
      rw [if_neg hneg, List.cons_append, Text.trimStart_cons (by decide)]
      change Option.map _ (readDigits? _ _) = _
      rw [readDigits?_padded _ _ hrest]
      exact congrArg (fun year => some (year, rest)) hyear

/-! ## fractions -/

theorem readFraction?_places (h : 0 < width) (h' : width ≤ 9)
    (hrest : rest.takeWhile Char.isDigit = []) :
    readFraction? ('.' :: (placesChars width n ++ rest)) =
      some (n % 10 ^ width * 10 ^ (9 - width), rest) := by
  have hdigits := isDigit_of_mem_placesChars width n
  have htake : ((placesChars width n ++ rest).take 9).takeWhile Char.isDigit =
      placesChars width n := by
    have hlater : (rest.take (9 - width)).takeWhile Char.isDigit = [] := by
      cases rest with
      | nil => rw [List.take_nil, List.takeWhile_nil]
      | cons c cs =>
          cases 9 - width with
          | zero => rfl
          | succ k =>
              rw [List.takeWhile_cons] at hrest
              split at hrest
              · contradiction
              · next hc => rw [List.take_succ_cons, List.takeWhile_cons_of_neg hc]
    rw [List.take_append, List.take_of_length_le (by rw [length_placesChars]; exact h'),
      length_placesChars, Text.takeWhile_isDigit hdigits hlater]
  have hdrop : rest.dropWhile Char.isDigit = rest :=
    Text.dropWhile_isDigit (fun c h => absurd h List.not_mem_nil) hrest
  rw [readFraction?, readDigits?_append (placesChars_ne_nil h n) hdigits htake, Option.map_some,
    digitsValue_placesChars]
  dsimp only
  rw [hdrop, List.length_append, length_placesChars, Nat.add_sub_cancel]
  rfl

theorem readFraction?_fractionChars (h : n < 1000000000) :
    readFraction? (fractionChars n ++ ['Z']) = some (n, ['Z']) := by
  unfold fractionChars
  split
  · next hzero => rw [hzero]; rfl
  · split
    · have hn : n / 1000000 % 10 ^ 3 * 10 ^ (9 - 3) = n := by omega
      rw [List.cons_append, readFraction?_places (by omega) (by omega) rfl, hn]
    · split
      · have hn : n / 1000 % 10 ^ 6 * 10 ^ (9 - 6) = n := by omega
        rw [List.cons_append, readFraction?_places (by omega) (by omega) rfl, hn]
      · have hn : n % 10 ^ 9 * 10 ^ (9 - 9) = n := by omega
        rw [List.cons_append, readFraction?_places (by omega) (by omega) rfl, hn]

/-! ## timestamps -/

/-- The date of a timestamp that can be written. -/
theorem IsValid.date (h : t.IsValid) : (Date.ofDays (t.seconds / 86400)).IsValid := by
  obtain ⟨hlow, hhigh, -⟩ := h
  unfold minSeconds at hlow
  unfold maxSeconds at hhigh
  exact Date.isValid_ofDays (by omega) (by omega)

/-- The date and the time of day of a timestamp are those of no other. -/
theorem ofParts?_ofDays (h : t.IsValid) {second : Nat}
    (hsecond : second = (t.seconds % 86400).toNat) :
    ofParts? (Date.ofDays (t.seconds / 86400)) (second / 3600) (second / 60 % 60)
      (second % 60 + t.nanos / 1000000000) (t.nanos % 1000000000) 0 = some t := by
  have hdate := h.date
  obtain ⟨hlow, hhigh, hnanos⟩ := h
  have hday : 0 ≤ t.seconds % 86400 ∧ t.seconds % 86400 < 86400 := by omega
  -- a leap second follows the fifty-ninth second only
  have hleap : t.nanos / 1000000000 = 0 ∨ t.nanos / 1000000000 = 1 ∧ second % 60 = 59 := by omega
  have hsixty : second % 60 + t.nanos / 1000000000 ≤ 60 ∧
      (second % 60 + t.nanos / 1000000000) / 60 = t.nanos / 1000000000 := by omega
  have hseconds : t.seconds / 86400 * 86400 +
      ((second / 3600 * 3600 + second / 60 % 60 * 60 +
        (second % 60 + t.nanos / 1000000000 - t.nanos / 1000000000) : Nat) : Int) - 0 =
          t.seconds := by
    omega
  have hwhole : t.nanos % 1000000000 + t.nanos / 1000000000 * 1000000000 = t.nanos := by omega
  unfold ofParts?
  rw [if_pos ⟨hdate, by omega, by omega, hsixty.1, by omega, by omega⟩]
  dsimp only
  rw [hsixty.2, Date.toDays_ofDays, hseconds, hwhole]
  exact if_pos ⟨hlow, hhigh⟩

/-- **A timestamp is read back from its text.** -/
theorem parse?_render (h : t.IsValid) : parse? t.render = some t := by
  have hmonth := Date.ofDays_month (t.seconds / 86400)
  have hday : (Date.ofDays (t.seconds / 86400)).day < 100 := by
    have hlength : Date.daysInMonth (Date.ofDays (t.seconds / 86400)).year
        (Date.ofDays (t.seconds / 86400)).month ≤ 31 := Date.daysInMonth_le _ _
    have := (Date.ofDays_day (t.seconds / 86400)).2
    omega
  have hnanos : t.nanos / 1000000000 ≤ 1 := by
    obtain ⟨-, -, hnanos⟩ := h
    omega
  have hparts := ofParts?_ofDays h rfl
  have hsecond : (t.seconds % 86400).toNat < 86400 := by omega
  unfold parse? render parseChars? chars
  rw [String.toList_ofList]
  generalize (t.seconds % 86400).toNat = second at hparts hsecond ⊢
  generalize Date.ofDays (t.seconds / 86400) = date at hparts hmonth hday ⊢
  simp only [List.append_assoc, List.cons_append, Option.bind_eq_bind]
  rw [readYear?_yearChars _ rfl, Option.bind_some]
  dsimp only
  rw [readMark?_cons (by decide), Option.bind_some, readTwo?_places (by omega), Option.bind_some]
  dsimp only
  rw [readMark?_cons (by decide), Option.bind_some, readTwo?_places hday, Option.bind_some]
  dsimp only
  rw [if_pos (by decide), Option.bind_some, readTwo?_places (by omega), Option.bind_some]
  dsimp only
  rw [readMark?_cons (by decide), Option.bind_some, readTwo?_places (by omega), Option.bind_some]
  dsimp only
  rw [readMark?_cons (by decide), Option.bind_some, readTwo?_places (by omega), Option.bind_some]
  dsimp only
  rw [readFraction?_fractionChars (Nat.mod_lt _ (by omega)), Option.bind_some]
  exact hparts

end ChatService.Timestamp
