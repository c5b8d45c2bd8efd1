/-!
# Blank text

White space as Unicode defines it, the removal of leading white space, and the test for texts
that hold nothing else. Names, message bodies and search texts must not be blank, and page numbers
may be preceded by white space.
-/

namespace ChatService.Text

/-- Whether a character lies in one of some ranges of code points, ends included. -/
def inRanges (ranges : List (Nat × Nat)) (c : Char) : Bool :=
  ranges.any fun range => decide (range.1 ≤ c.toNat) && decide (c.toNat ≤ range.2)

/-- The code points with the Unicode property `White_Space`. -/
def blankRanges : List (Nat × Nat) :=
  [(0x9, 0xD), (0x20, 0x20), (0x85, 0x85), (0xA0, 0xA0), (0x1680, 0x1680), (0x2000, 0x200A),
    (0x2028, 0x2029), (0x202F, 0x202F), (0x205F, 0x205F), (0x3000, 0x3000)]

/-- White space. -/
def isBlankChar (c : Char) : Bool := inRanges blankRanges c

/-- Text without the white space it starts with. -/
def trimStart (cs : List Char) : List Char := cs.dropWhile isBlankChar

/-- A text is blank when it holds nothing but white space, the empty text included. -/
def isBlank (s : String) : Bool := s.toList.all isBlankChar

/-- What is left after trimming does not start with white space. -/
theorem isBlankChar_head?_trimStart {cs : List Char} {c : Char}
    (h : (trimStart cs).head? = some c) : isBlankChar c = false := by
  induction cs with
  | nil => simp [trimStart] at h
  | cons d rest ih =>
    by_cases hd : isBlankChar d = true
    · exact ih (by simpa [trimStart, List.dropWhile_cons, hd] using h)
    · have : d = c := by simpa [trimStart, List.dropWhile_cons, hd] using h
      simpa [this] using hd

/-- White space in front of a text makes no difference to what is left of it. -/
theorem trimStart_append {blanks cs : List Char} (h : ∀ c ∈ blanks, isBlankChar c = true) :
    trimStart (blanks ++ cs) = trimStart cs := by
  induction blanks with
  | nil => rfl
  | cons b rest ih =>
    have hb : isBlankChar b = true := h b (by simp)
    simp only [trimStart, List.cons_append, List.dropWhile_cons, hb, if_true]
    exact ih fun c hc => h c (by simp [hc])

end ChatService.Text
