import ChatService.Proofs.Page.Requests
import ChatService.Proofs.Text.Decimal
import ChatService.Proofs.Text.Utf8
import Mathlib.Data.List.TakeWhile

/-!
# What a lenient number is

A text begins with white space, a sign and digits, each as far as it goes and each possibly missing
(`Begins`).  The number that is read is the value of the digits, lowered to the largest signed
64-bit number, with the sign.  The digits are taken one after the other, and the value stops at the
end of the range twice with each of them, once when it is multiplied and once when the digit is
added; that this comes to one comparison with the exact value is an invariant of the loop.

The same number is read off the bytes of a text by steps that give up where a character would be cut
in two or a result would be out of range (`ofBytes?`).  They never give up.
-/

namespace ChatService.Page

open Word

/-! ## digits one after the other -/

section Saturation

variable {n : Nat} {c : Char} {cs : List Char}

/-- A value that has stopped at the largest number stays there, and any other is exact. -/
theorem appendDigit_min :
    appendDigit (min n maxInt64) c = min ((n * 10 + Text.digitValue c : Nat) : Int) maxInt64 := by
  unfold appendDigit maxInt64
  omega

theorem foldl_appendDigit_min :
    cs.foldl appendDigit (min n maxInt64) =
      min ((cs.foldl (fun n c => n * 10 + Text.digitValue c) n : Nat) : Int) maxInt64 := by
  induction cs generalizing n with
  | nil => rfl
  | cons c cs ih => rw [List.foldl_cons, List.foldl_cons, appendDigit_min, ih]

/-- The leading number is the value of all leading digits, lowered to the largest number. -/
theorem leadingNumber_eq :
    leadingNumber cs = min (Text.digitsValue (cs.takeWhile Char.isDigit) : Int) maxInt64 :=
  foldl_appendDigit_min (n := 0)

end Saturation

/-! ## how a text begins -/

/-- The sign in front of a number, if there is one. -/
inductive Sign where
  | none
  | plus
  | minus
deriving DecidableEq, Repr

namespace Sign

def chars : Sign → List Char
  | none => []
  | plus => ['+']
  | minus => ['-']

def factor : Sign → Int
  | none => 1
  | plus => 1
  | minus => -1

end Sign

/-- A text is white space, a sign, digits and a rest.  White space and digits go as far as they can,
and a sign is read where there is one. -/
structure Begins (cs blanks : List Char) (sign : Sign) (digits rest : List Char) : Prop where
  text : cs = blanks ++ (sign.chars ++ (digits ++ rest))
  blanks : ∀ c ∈ blanks, Text.isBlankChar c = true
  trimmed : ∀ c, (sign.chars ++ (digits ++ rest)).head? = some c → Text.isBlankChar c = false
  signed : sign = .none → ∀ c, (digits ++ rest).head? = some c → c ≠ '+' ∧ c ≠ '-'
  digits : ∀ c ∈ digits, c.isDigit = true
  longest : ∀ c, rest.head? = some c → c.isDigit = false

section Beginnings

variable {blanks digits rest cs : List Char} {sign : Sign}

/-- Every text begins so. -/
theorem exists_begins (cs : List Char) :
    ∃ blanks sign digits rest, Begins cs blanks sign digits rest := by
  have hsigned : ∃ sign behind, Text.trimStart cs = Sign.chars sign ++ behind ∧
      (sign = .none → ∀ c, behind.head? = some c → c ≠ '+' ∧ c ≠ '-') := by
    rcases htrim : Text.trimStart cs with _ | ⟨c, behind⟩
    · exact ⟨.none, [], rfl, by simp⟩
    by_cases hplus : c = '+'
    · exact ⟨.plus, behind, by rw [hplus]; rfl, nofun⟩
    by_cases hminus : c = '-'
    · exact ⟨.minus, behind, by rw [hminus]; rfl, nofun⟩
    · exact ⟨.none, c :: behind, rfl, by simp [hplus, hminus]⟩
  obtain ⟨sign, behind, htrim, hsign⟩ := hsigned
  have hbehind : behind.takeWhile Char.isDigit ++ behind.dropWhile Char.isDigit = behind :=
    List.takeWhile_append_dropWhile
  refine ⟨cs.takeWhile Text.isBlankChar, sign, behind.takeWhile Char.isDigit,
    behind.dropWhile Char.isDigit, ?_, ?_, ?_, ?_, ?_, ?_⟩
  · rw [hbehind, ← htrim]
    exact List.takeWhile_append_dropWhile.symm
  · exact fun c => List.mem_takeWhile_imp
  · rw [hbehind, ← htrim]
    exact fun c => Text.isBlankChar_head?_trimStart
  · rwa [hbehind]
  · exact fun c => List.mem_takeWhile_imp
  · exact fun c hc => by simpa [hc] using List.head?_dropWhile_not Char.isDigit behind

theorem Begins.trimStart_eq (h : Begins cs blanks sign digits rest) :
    Text.trimStart cs = sign.chars ++ (digits ++ rest) := by
  rw [h.text, Text.trimStart_append h.blanks]
  have htrimmed := h.trimmed
  cases hbehind : sign.chars ++ (digits ++ rest) with
  | nil => rfl
  | cons c behind => exact Text.trimStart_cons (htrimmed c (by rw [hbehind]; rfl))

theorem coerceInt_of_trimStart {raw : String}
    (h : Text.trimStart raw.toList = sign.chars ++ cs)
    (hsigned : sign = .none → ∀ c, cs.head? = some c → c ≠ '+' ∧ c ≠ '-') :
    coerceInt raw = sign.factor * leadingNumber cs := by
  unfold coerceInt
  rw [h]
  cases sign with
  | plus => exact (Int.one_mul _).symm
  | minus => exact (Int.neg_one_mul _).symm
  | none =>
      have hne := hsigned rfl
      cases cs with
      | nil => rfl
      | cons c cs =>
          obtain ⟨hplus, hminus⟩ := hne c rfl
          simp [Sign.chars, Sign.factor, hplus, hminus]

/-- **The number is the value of the digits, lowered to the largest one, with the sign.** -/
theorem Begins.coerceInt_eq {raw : String} (h : Begins raw.toList blanks sign digits rest) :
    coerceInt raw = sign.factor * min (Text.digitsValue digits : Int) maxInt64 := by
  rw [coerceInt_of_trimStart h.trimStart_eq h.signed, leadingNumber_eq,
    Text.takeWhile_isDigit h.digits (Text.takeWhile_isDigit_eq_nil h.longest)]

end Beginnings

/-! ## the same number out of bytes -/

/-- The signed 64-bit number that is nearest to a number. -/
def nearestInt64 (n : Int) : Int := max minInt64 (min n maxInt64)

/-- The number with the other sign, unless it is out of range. -/
def negateInt64? (n : Int) : Option Int := if IsInt64 (-n) then some (-n) else none

/-- A byte that is an ASCII digit. -/
def isDigitByte (b : UInt8) : Bool := decide (0x30 ≤ b.toNat) && decide (b.toNat ≤ 0x39)

/-- What a byte is above the digit zero, unless it is below. -/
def digitByteValue? (b : UInt8) : Option Int :=
  if 0x30 ≤ b.toNat then some (b.toNat - 0x30) else none

/-- One digit more at the end of a number: the number is multiplied and the digit is added, and each
of these stops at the ends of the range. -/
def appendByte? (value : Int) (b : UInt8) : Option Int :=
  (digitByteValue? b).map fun digit => nearestInt64 (nearestInt64 (value * 10) + digit)

/-- A byte that stands inside of a character. -/
def isInnerByte (b : UInt8) : Bool := decide (0x80 ≤ b.toNat) && decide (b.toNat < 0xC0)

/-- Bytes behind the first one, unless a character would be cut in two. -/
def behindFirst? : List UInt8 → Option (List UInt8)
  | [] => none
  | _ :: [] => some []
  | _ :: b :: rest => if isInnerByte b then none else some (b :: rest)

/-- The number that leading bytes spell. -/
def leadingBytes? (bytes : List UInt8) : Option Int :=
  (bytes.takeWhile isDigitByte).foldlM appendByte? 0

/-- The number that the bytes of a text start with, read by steps that may give up. -/
def ofBytes? (bytes : List UInt8) : Option Int :=
  if bytes.head? = some 0x2D then
    ((behindFirst? bytes).bind leadingBytes?).bind negateInt64?
  else if bytes.head? = some 0x2B then (behindFirst? bytes).bind leadingBytes?
  else leadingBytes? bytes

section Bytes

variable {c : Char} {cs : List Char} {value : Int}

/-- Behind a character of ASCII nothing is cut in two. -/
theorem behindFirst?_utf8 (hc : c.toNat < 0x80) :
    behindFirst? (Text.utf8 (c :: cs)) = some (Text.utf8 cs) := by
  obtain ⟨first, rest, hbytes, ⟨-, -, rfl⟩ | hcases⟩ := Text.exists_utf8EncodeChar c
  swap
  · omega
  rw [Text.utf8_cons, hbytes]
  cases cs with
  | nil => rfl
  | cons d cs =>
      obtain ⟨second, rest, hbytes, hcases⟩ := Text.exists_utf8EncodeChar d
      have hinner : isInnerByte second = false := by
        simp only [isInnerByte, Bool.and_eq_false_iff, decide_eq_false_iff_not]
        omega
      simp [Text.utf8_cons, hbytes, behindFirst?, hinner]

/-- Between the ends of the range, a byte is appended as its character is. -/
theorem appendByte?_eq {b : UInt8} (hb : b.toNat = c.toNat) (hdigit : c.isDigit = true)
    (hvalue : 0 ≤ value) : appendByte? value b = some (appendDigit value c) := by
  have hrange := Text.toNat_of_isDigit hdigit
  have hdigitValue : digitByteValue? b = some (Text.digitValue c : Int) := by
    have hcast : ((c.toNat - '0'.toNat : Nat) : Int) = c.toNat - 0x30 := Int.ofNat_sub hrange.1
    rw [digitByteValue?, hb, if_pos hrange.1, Text.digitValue, hcast]
  rw [appendByte?, hdigitValue, Option.map_some]
  unfold appendDigit nearestInt64 minInt64 maxInt64
  congr 1
  omega

/-- The digits that leading bytes spell are those that leading characters spell. -/
theorem foldlM_appendByte? (hvalue : 0 ≤ value) :
    ((Text.utf8 cs).takeWhile isDigitByte).foldlM appendByte? value =
      some ((cs.takeWhile Char.isDigit).foldl appendDigit value) := by
  induction cs generalizing value with
  | nil => rfl
  | cons c cs ih =>
      obtain ⟨b, rest, hbytes, hcases⟩ := Text.exists_utf8EncodeChar c
      have hsame : isDigitByte b = c.isDigit := by
        rw [Text.isDigit_eq, isDigitByte, ← Bool.decide_and, ← Bool.decide_and, decide_eq_decide]
        omega
      cases hdigit : c.isDigit with
      | false => simp [Text.utf8_cons, hbytes, hsame, hdigit]
      | true =>
          have hrange := Text.toNat_of_isDigit hdigit
          obtain ⟨-, hb, rfl⟩ | hlarge := hcases
          · have happend := appendByte?_eq hb hdigit hvalue
            simp only [Text.utf8_cons, hbytes, List.cons_append, List.nil_append,
              List.takeWhile_cons, hsame, hdigit, if_true, List.foldlM_cons, happend,
              List.foldl_cons]
            exact ih (appendDigit_range hvalue c).1
          · omega

theorem leadingBytes?_utf8 : leadingBytes? (Text.utf8 cs) = some (leadingNumber cs) :=
  foldlM_appendByte? (Int.le_refl 0)

/-- **A number is read off the bytes of every text**: no character is cut in two, and no result is
out of range. -/
theorem ofBytes?_utf8 (raw : String) :
    ofBytes? (Text.utf8 (Text.trimStart raw.toList)) = some (coerceInt raw) := by
  have hminus : ∀ cs : List Char, (Text.utf8 cs).head? = some 0x2D ↔ cs.head? = some '-' :=
    fun _ => Text.head?_utf8_eq_some_iff (by decide) (by decide)
  have hplus : ∀ cs : List Char, (Text.utf8 cs).head? = some 0x2B ↔ cs.head? = some '+' :=
    fun _ => Text.head?_utf8_eq_some_iff (by decide) (by decide)
  unfold ofBytes? coerceInt
  simp only [hminus, hplus]
  rcases htrim : Text.trimStart raw.toList with _ | ⟨c, cs⟩
  · rfl
  by_cases hc : c = '-'
  · subst hc
    have hrange : 0 ≤ leadingNumber cs ∧ leadingNumber cs ≤ maxInt64 :=
      foldl_appendDigit_range (by decide) _
    have hnegated : negateInt64? (leadingNumber cs) = some (-leadingNumber cs) := by
      refine if_pos ?_
      unfold IsInt64 minInt64
      unfold maxInt64 at hrange ⊢
      omega
    simp [behindFirst?_utf8, leadingBytes?_utf8, hnegated]
  by_cases hc' : c = '+'
  · subst hc'
    simp [behindFirst?_utf8, leadingBytes?_utf8]
  · simp [hc, hc', leadingBytes?_utf8]

end Bytes

/-! ## numbers that are followed by anything -/

section Followed

variable {blanks digits rest : List Char} {sign : Sign}

/-- Where there is a digit, the number is read whatever stands in front of it and behind it. -/
theorem coerceInt_of_digits (hblanks : ∀ c ∈ blanks, Text.isBlankChar c = true) (hne : digits ≠ [])
    (hdigits : ∀ c ∈ digits, c.isDigit = true) :
    coerceInt (String.ofList (blanks ++ (sign.chars ++ (digits ++ rest)))) =
      sign.factor *
        min (Text.digitsValue (digits ++ rest.takeWhile Char.isDigit) : Int) maxInt64 := by
  obtain ⟨d, ds, rfl⟩ := List.exists_cons_of_ne_nil hne
  have hdigit : d.isDigit = true := hdigits d List.mem_cons_self
  have htrim :
      Text.trimStart (sign.chars ++ (d :: ds ++ rest)) = sign.chars ++ (d :: ds ++ rest) := by
    cases sign with
    | none => exact Text.trimStart_cons (Text.isBlankChar_of_isDigit hdigit)
    | plus => exact Text.trimStart_cons (by decide)
    | minus => exact Text.trimStart_cons (by decide)
  have hsigned : sign = .none → ∀ c, (d :: ds ++ rest).head? = some c → c ≠ '+' ∧ c ≠ '-' := by
    rintro - c hc
    obtain rfl : d = c := Option.some.inj hc
    exact ⟨by rintro rfl; contradiction, by rintro rfl; contradiction⟩
  rw [coerceInt_of_trimStart (by rw [String.toList_ofList, Text.trimStart_append hblanks, htrim])
    hsigned, leadingNumber_eq, List.takeWhile_append_of_pos hdigits]

/-- **A number that is too large stays the largest one**, with more digits or without. -/
theorem coerceInt_of_large (hblanks : ∀ c ∈ blanks, Text.isBlankChar c = true)
    (hdigits : ∀ c ∈ digits, c.isDigit = true)
    (hlarge : maxInt64 < (Text.digitsValue digits : Int)) :
    coerceInt (String.ofList (blanks ++ (sign.chars ++ (digits ++ rest)))) =
      sign.factor * maxInt64 := by
  have hne : digits ≠ [] := by
    rintro rfl
    exact absurd hlarge (by decide)
  have hle := Text.digitsValue_le_append digits (rest.takeWhile Char.isDigit)
  rw [coerceInt_of_digits hblanks hne hdigits, min_eq_right (by omega)]

/-- **A number between the ends of the range is read back**, whatever white space stands in front of
it and whatever stands behind it but a digit. -/
theorem coerceInt_toString {n : Int} (hmin : minInt64 < n) (hmax : n ≤ maxInt64)
    (hblanks : ∀ c ∈ blanks, Text.isBlankChar c = true)
    (hrest : ∀ c, rest.head? = some c → c.isDigit = false) :
    coerceInt (String.ofList (blanks ++ ((toString n).toList ++ rest))) = n := by
  have hdigits : ∀ c ∈ Json.natChars n.natAbs, c.isDigit = true := fun _ =>
    Text.isDigit_of_mem_natChars
  have hread (sign : Sign) :
      coerceInt (String.ofList (blanks ++ (sign.chars ++ (Json.natChars n.natAbs ++ rest)))) =
        sign.factor * n.natAbs := by
    have hle : (n.natAbs : Int) ≤ maxInt64 := by
      unfold minInt64 maxInt64 at *
      omega
    rw [coerceInt_of_digits hblanks (Text.natChars_ne_nil _) hdigits,
      Text.takeWhile_isDigit_eq_nil hrest, List.append_nil, Text.digitsValue_natChars,
      min_eq_left hle]
  have hchars : (toString n).toList = Json.intChars n := Text.toList_repr n
  rw [hchars, Json.intChars]
  split
  · next hneg =>
      refine (hread .minus).trans ?_
      show -1 * (n.natAbs : Int) = n
      omega
  · next hnonneg =>
      refine (hread .none).trans ?_
      show 1 * (n.natAbs : Int) = n
      omega

end Followed

/-- **A lenient number is the saturated leading integer.**  Every text begins with white space, a
sign and digits, each as far as it goes, and the number is the value of these digits, lowered to the
largest signed 64-bit number, with the sign: what stands behind them makes no difference.  The bytes
of the text spell it without a character cut in two or a result out of range.  Once the digits spell
more than the largest number, nothing that follows brings it down, be it digits or not; and a
number that is not beyond the ends of the range is read back from its decimal text behind any white
space and in front of anything but a digit. -/
theorem coerceInt_saturates :
    (∀ cs, ∃ blanks sign digits rest, Begins cs blanks sign digits rest) ∧
    (∀ (raw : String) (blanks : List Char) (sign : Sign) (digits rest : List Char),
      Begins raw.toList blanks sign digits rest →
        coerceInt raw = sign.factor * min (Text.digitsValue digits : Int) maxInt64) ∧
    (∀ raw : String,
      ofBytes? (Text.utf8 (Text.trimStart raw.toList)) = some (coerceInt raw)) ∧
    (∀ (blanks : List Char) (sign : Sign) (digits rest : List Char),
      (∀ c ∈ blanks, Text.isBlankChar c = true) → (∀ c ∈ digits, c.isDigit = true) →
        maxInt64 < (Text.digitsValue digits : Int) →
          coerceInt (String.ofList (blanks ++ (sign.chars ++ (digits ++ rest)))) =
            sign.factor * maxInt64) ∧
    ∀ (n : Int) (blanks rest : List Char), minInt64 < n → n ≤ maxInt64 →
      (∀ c ∈ blanks, Text.isBlankChar c = true) →
        (∀ c, rest.head? = some c → c.isDigit = false) →
          coerceInt (String.ofList (blanks ++ ((toString n).toList ++ rest))) = n :=
  ⟨exists_begins, fun _ _ _ _ _ h => h.coerceInt_eq, ofBytes?_utf8,
    fun _ _ _ _ hblanks hdigits hlarge => coerceInt_of_large hblanks hdigits hlarge,
    fun _ _ _ hmin hmax hblanks hrest => coerceInt_toString hmin hmax hblanks hrest⟩

/-- The digits of the smallest signed 64-bit number, behind white space of three bytes and in front
of a character of two. -/
def smallestWritten : String := "\u3000\t-9223372036854775808é"

/-- The number with the smallest one's digits is one larger, so it has a counterpart; more digits
change nothing, and its own digits are read back. -/
theorem coerceInt_smallestWritten :
    Begins smallestWritten.toList ['\u3000', '\t'] .minus "9223372036854775808".toList ['é'] ∧
    coerceInt smallestWritten = -maxInt64 ∧
    ofBytes? (Text.utf8 (Text.trimStart smallestWritten.toList)) = some (-maxInt64) ∧
    coerceInt "\u3000\t-92233720368547758080000é" = -maxInt64 ∧
    coerceInt "\u3000\t-9223372036854775807é" = -maxInt64 := by
  obtain ⟨-, hvalue, hbytes, hlarge, hback⟩ := coerceInt_saturates
  have hblanks : ∀ c ∈ ['\u3000', '\t'], Text.isBlankChar c = true :=
    List.all_eq_true.mp (by decide)
  have hdigits : ∀ c ∈ "9223372036854775808".toList, c.isDigit = true :=
    List.all_eq_true.mp (by decide)
  have hrest : ∀ c, ['é'].head? = some c → c.isDigit = false := by
    rintro c ⟨⟩
    decide
  have hbegins : Begins smallestWritten.toList ['\u3000', '\t'] .minus
      "9223372036854775808".toList ['é'] :=
    { text := by decide
      blanks := hblanks
      trimmed := by
        rintro c ⟨⟩
        decide
      signed := nofun
      digits := hdigits
      longest := hrest }
  have hread : coerceInt smallestWritten = -maxInt64 := hvalue _ _ _ _ _ hbegins
  refine ⟨hbegins, hread, hread ▸ hbytes smallestWritten, ?_, ?_⟩
  · exact hlarge ['\u3000', '\t'] .minus "9223372036854775808".toList "0000é".toList hblanks hdigits
      (by decide)
  · exact hback (-maxInt64) ['\u3000', '\t'] ['é'] (by decide) (by decide) hblanks hrest

end ChatService.Page
