import ChatService.Text.Blank
import ChatService.Text.LowerCase.Table

/-!
# Lower case

The lower-case form of a text over all of Unicode, as full-text matching compares it. Every
character is mapped by itself with one exception: a capital sigma that ends a word becomes the final
sigma `ς`, and whether it does is seen from its neighbours.
-/

namespace ChatService.Text

/-- The run that a character belongs to. -/
def caseRun? (c : Char) : Option CaseRun :=
  caseRuns.find? fun run =>
    decide (run.first ≤ c.toNat) && decide (c.toNat ≤ run.last) &&
      (c.toNat - run.first) % run.step == 0

/-- The lower-case form of a character without regard to its neighbours: two characters for the
    capital I with a dot, one for every other. -/
def lowerChar (c : Char) : List Char :=
  if c.toNat < 0x80 then
    if 'A' ≤ c ∧ c ≤ 'Z' then [Char.ofNat (c.toNat + 32)] else [c]
  else if c = 'İ' then ['i', '\u0307']
  else
    match caseRun? c with
    | some run => [Char.ofNat (c.toNat + run.shift).toNat]
    | none => [c]

/-- Behind characters that are ignored, the first one that is not is a cased letter. -/
def meetsCased (cs : List Char) : Bool :=
  match cs.dropWhile (inRanges caseIgnorableRanges) with
  | c :: _ => inRanges casedRanges c
  | [] => false

/-- Lower case of a text; `before` holds what stands in front of it, last character first. -/
def lowerFrom (before : List Char) : List Char → List Char
  | [] => []
  | c :: rest =>
    (if c = 'Σ' then if meetsCased before && !meetsCased rest then ['ς'] else ['σ']
      else lowerChar c) ++ lowerFrom (c :: before) rest

/-- The lower-case form of a text. -/
def lower (s : String) : List Char := lowerFrom [] s.toList

/-- Whether the second text stands somewhere in the first. -/
def contains (needle : List Char) : List Char → Bool
  | [] => needle.isEmpty
  | c :: rest => needle.isPrefixOf (c :: rest) || contains needle rest

/-- A text stands in another exactly when something can be written before and after it. -/
theorem contains_iff {needle cs : List Char} : contains needle cs = true ↔ needle <:+: cs := by
  induction cs with
  | nil => simp [contains]
  | cons c rest ih =>
    rw [contains, Bool.or_eq_true, ih, List.isPrefixOf_iff_prefix, List.infix_cons_iff]

end ChatService.Text
