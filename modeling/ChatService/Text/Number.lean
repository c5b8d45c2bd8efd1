/-!
# Whole numbers in decimal digits

The value of digits, and the two forms in which a number may fill a text: with a plus sign at most,
or with either sign.
-/

namespace ChatService.Text

/-- The value of a decimal digit. -/
def digitValue (c : Char) : Nat := c.toNat - '0'.toNat

/-- The value of decimal digits. -/
def digitsValue (cs : List Char) : Nat := cs.foldl (fun n c => n * 10 + digitValue c) 0

/-- The number that a text of digits spells, if there is a digit and nothing else. -/
def digits? (cs : List Char) : Option Nat :=
  if cs.isEmpty || !cs.all Char.isDigit then none else some (digitsValue cs)

/-- A number in digits, a plus sign allowed in front. -/
def natural? : List Char → Option Nat
  | '+' :: rest => digits? rest
  | cs => digits? cs

/-- A number in digits, a sign allowed in front. -/
def integer? : List Char → Option Int
  | '-' :: rest => (digits? rest).map fun n => -(n : Int)
  | cs => (natural? cs).map Int.ofNat

/-- One digit more at the end makes a number ten times as large, and adds the digit. -/
theorem digitsValue_append_singleton (cs : List Char) (c : Char) :
    digitsValue (cs ++ [c]) = digitsValue cs * 10 + digitValue c := by
  simp [digitsValue]

/-- A number without a sign reads the same in both forms. -/
theorem integer?_eq_natural? {cs : List Char} (h : cs.head? ≠ some '-') :
    integer? cs = (natural? cs).map Int.ofNat := by
  unfold integer?
  split <;> simp_all

end ChatService.Text
