import ChatService.Text.Utf8

/-!
# Bytes read back

The bytes of a text are read as its characters, without gaps.
-/

namespace ChatService.Text

section Steps

variable {n value left low high : Nat}

theorem firstByte_of_two (hlow : 2 ≤ n) (hhigh : n < 32) :
    firstByte (n + 192) = ([], some ⟨n, 1, 0x80, 0xBF⟩) := by
  unfold firstByte
  rw [if_neg (by omega), if_neg (by omega), if_pos (by omega), Nat.add_sub_cancel]

theorem firstByte_of_three (h : n < 16) :
    firstByte (n + 224) =
      ([], some ⟨n, 2, if n = 0 then 0xA0 else 0x80, if n = 13 then 0x9F else 0xBF⟩) := by
  unfold firstByte
  rw [if_neg (by omega), if_neg (by omega), if_neg (by omega), if_pos (by omega),
    Nat.add_sub_cancel]
  simp only [show n + 224 = 224 ↔ n = 0 by omega, show n + 224 = 237 ↔ n = 13 by omega]

theorem firstByte_of_four (h : n < 5) :
    firstByte (n + 240) =
      ([], some ⟨n, 3, if n = 0 then 0x90 else 0x80, if n = 4 then 0x8F else 0xBF⟩) := by
  unfold firstByte
  rw [if_neg (by omega), if_neg (by omega), if_neg (by omega), if_neg (by omega),
    if_pos (by omega), Nat.add_sub_cancel]
  simp only [show n + 240 = 240 ↔ n = 0 by omega, show n + 240 = 244 ↔ n = 4 by omega]

theorem nextByte_of_last (hlow : low ≤ n + 128) (hhigh : n + 128 ≤ high) :
    nextByte ⟨value, 1, low, high⟩ (n + 128) =
      ([some (Char.ofNat (value * 64 + n))], none) := by
  simp [nextByte, hlow, hhigh]

theorem nextByte_of_more (hleft : 0 < left) (hlow : low ≤ n + 128) (hhigh : n + 128 ≤ high) :
    nextByte ⟨value, left + 1, low, high⟩ (n + 128) =
      ([], some ⟨value * 64 + n, left, 0x80, 0xBF⟩) := by
  simp [nextByte, hlow, hhigh, Nat.ne_of_gt hleft]

end Steps

theorem toNat_ofNat_of_lt {n : Nat} (h : n < 256) : (UInt8.ofNat n).toNat = n := by
  rw [UInt8.toNat_ofNat', Nat.mod_eq_of_lt h]

/-- The bytes of a character are read as the character, whatever follows. -/
theorem readUtf8_utf8EncodeChar (done : List (Option Char)) (c : Char) (rest : List UInt8) :
    readUtf8 done none (String.utf8EncodeChar c ++ rest) = readUtf8 (some c :: done) none rest := by
  have hvalid : c.val.toNat < 0xD800 ∨ 0xDFFF < c.val.toNat ∧ c.val.toNat < 0x110000 := c.valid
  have hchar : Char.ofNat c.val.toNat = c := Char.ofNat_toNat c
  generalize hv : c.val.toNat = v at hvalid hchar
  have htail : ∀ n, (UInt8.ofNat (n % 64 + 128)).toNat = n % 64 + 128 :=
    fun n => toNat_ofNat_of_lt (by omega)
  unfold String.utf8EncodeChar
  simp only [hv]
  -- one case for each number of bytes
  split
  · simp only [List.cons_append, List.nil_append, readUtf8]
    rw [toNat_ofNat_of_lt (by omega), firstByte, if_pos (by omega), hchar]
    rfl
  split
  · have hvalue : v / 64 % 32 * 64 + v % 64 = v := by omega
    simp only [List.cons_append, List.nil_append, readUtf8]
    rw [toNat_ofNat_of_lt (by omega), firstByte_of_two (by omega) (by omega)]
    simp only [List.nil_append, readUtf8, htail]
    rw [nextByte_of_last (by omega) (by omega), hvalue, hchar]
    rfl
  split
  · have hvalue : (v / 4096 % 16 * 64 + v / 64 % 64) * 64 + v % 64 = v := by omega
    simp only [List.cons_append, List.nil_append, readUtf8]
    rw [toNat_ofNat_of_lt (by omega), firstByte_of_three (by omega)]
    simp only [List.nil_append, readUtf8, htail]
    rw [nextByte_of_more (by omega) (by split <;> omega) (by split <;> omega)]
    simp only [List.nil_append, readUtf8, htail]
    rw [nextByte_of_last (by omega) (by omega), hvalue, hchar]
    rfl
  · have hvalue : ((v / 262144 % 8 * 64 + v / 4096 % 64) * 64 + v / 64 % 64) * 64 + v % 64 = v := by
      omega
    simp only [List.cons_append, List.nil_append, readUtf8]
    rw [toNat_ofNat_of_lt (by omega), firstByte_of_four (by omega)]
    simp only [List.nil_append, readUtf8, htail]
    rw [nextByte_of_more (by omega) (by split <;> omega) (by split <;> omega)]
    simp only [List.nil_append, readUtf8, htail]
    rw [nextByte_of_more (by omega) (by omega) (by omega)]
    simp only [List.nil_append, readUtf8, htail]
    rw [nextByte_of_last (by omega) (by omega), hvalue, hchar]
    rfl

theorem utf8Chars_utf8 (cs : List Char) : utf8Chars (utf8 cs) = cs.map some := by
  have hread : ∀ done, readUtf8 done none (utf8 cs) = done.reverse ++ cs.map some := by
    induction cs with
    | nil =>
        intro done
        simp [utf8, readUtf8]
    | cons c cs ih =>
        intro done
        rw [utf8, List.flatMap_cons, readUtf8_utf8EncodeChar]
        exact (ih _).trans (by simp)
  exact hread []

/-! ## bytes of ASCII -/

section Ascii

variable {c : Char} {cs : List Char}

/-- A character of ASCII is one byte, and any other begins with a byte that no such character has
and that does not stand inside of a character. -/
theorem exists_utf8EncodeChar (c : Char) : ∃ b rest, String.utf8EncodeChar c = b :: rest ∧
    (c.toNat < 0x80 ∧ b.toNat = c.toNat ∧ rest = [] ∨ 0x80 ≤ c.toNat ∧ 0xC0 ≤ b.toNat) := by
  have htoNat : c.val.toNat = c.toNat := rfl
  unfold String.utf8EncodeChar
  simp only [htoNat]
  split
  · exact ⟨_, _, rfl, .inl ⟨by omega, toNat_ofNat_of_lt (by omega), rfl⟩⟩
  split
  · exact ⟨_, _, rfl, .inr ⟨by omega, by rw [toNat_ofNat_of_lt (by omega)]; omega⟩⟩
  split
  · exact ⟨_, _, rfl, .inr ⟨by omega, by rw [toNat_ofNat_of_lt (by omega)]; omega⟩⟩
  · exact ⟨_, _, rfl, .inr ⟨by omega, by rw [toNat_ofNat_of_lt (by omega)]; omega⟩⟩

theorem utf8_cons : utf8 (c :: cs) = String.utf8EncodeChar c ++ utf8 cs :=
  List.flatMap_cons

/-- A text begins with a character of ASCII exactly if its bytes begin with the one of the
character. -/
theorem head?_utf8_eq_some_iff {d : Char} {b : UInt8} (hd : d.toNat < 0x80)
    (hb : b.toNat = d.toNat) : (utf8 cs).head? = some b ↔ cs.head? = some d := by
  cases cs with
  | nil => simp [utf8]
  | cons c cs =>
      obtain ⟨first, rest, hbytes, hcases⟩ := exists_utf8EncodeChar c
      have hfirst : first = b ↔ c = d := by
        rw [← UInt8.toNat_inj, ← Char.toNat_inj, hb]
        omega
      simpa [utf8_cons, hbytes] using hfirst

end Ascii

end ChatService.Text
