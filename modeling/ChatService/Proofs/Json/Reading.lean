import ChatService.Json.Bytes
import ChatService.Proofs.Text.Decimal
import ChatService.Proofs.Text.Hex
import ChatService.Proofs.Text.Utf8
import ChatService.Word

/-!
# JSON read back

The text of a value is read back as that value, whatever follows it, so long as its numbers are
whole and what follows cannot be taken for more digits.  A text is read back character by character
from its escapes; for values the induction follows the printer, and the length of what is printed
bounds the nesting of the reader.
-/

namespace ChatService.Json

open Text (digitsValue)

variable {rest : List Char} {fuel : Nat}

/-! ## texts -/

/-- The characters collected so far make a text. -/
def Collected.Plain (t : Collected) : Prop := t.pending = none ∧ t.readable = true

theorem Collected.Plain.addChar {t : Collected} (h : t.Plain) (c : Char) : (t.addChar c).Plain := by
  obtain ⟨hpending, hreadable⟩ := h
  exact ⟨rfl, by simp [Collected.addChar, hpending, hreadable]⟩

/-- A character is read back from inside the quotes. -/
theorem readText_escape (t : Collected) (c : Char) (rest : List Char) :
    readText t (escape c ++ rest) = readText (t.addChar c) rest := by
  unfold escape
  split
  · next h => subst h; rfl
  split
  · next h => subst h; rfl
  split
  · next h => subst h; rfl
  split
  · next h => subst h; rfl
  split
  · next h => subst h; rfl
  split
  · next h => subst h; rfl
  split
  · next h => subst h; rfl
  split
  · next hcontrol =>
      have hchar : Unit16.ofNat c.toNat = .char c := by
        unfold Unit16.ofNat
        rw [if_neg (by omega), if_neg (by omega), Char.ofNat_toNat]
      have hread : Text.hexNumber? (Text.hexDigits 4 c.toNat) = some c.toNat :=
        Text.hexNumber?_hexDigits (by omega)
      rw [show Text.hexDigits 4 c.toNat = [_, _, _, _] from rfl] at hread ⊢
      simp only [List.cons_append, List.nil_append]
      rw [readText, hread]
      exact congrArg (fun unit => readText (t.addUnit unit) rest) hchar
  · next hquote hslash _ _ _ _ _ hcontrol =>
      rw [List.singleton_append, readText.eq_5]
      · rw [if_neg (not_or.mpr ⟨hcontrol, hslash⟩)]
      · exact hquote
      · exact fun _ _ _ _ _ hc _ => hslash hc
      · exact fun _ _ hc _ => hslash hc

/-- A text is read back from between its quotes. -/
theorem readText_flatMap_escape (cs : List Char) {t : Collected} (h : t.Plain)
    (rest : List Char) : readText t (cs.flatMap escape ++ '"' :: rest) =
      some (some (String.ofList (t.chars.reverse ++ cs)), rest) := by
  induction cs generalizing t with
  | nil =>
      obtain ⟨hpending, hreadable⟩ := h
      rw [List.flatMap_nil, List.nil_append, readText, Collected.text?, hpending, hreadable,
        List.append_nil]
      rfl
  | cons c cs ih =>
      rw [List.flatMap_cons, List.append_assoc, readText_escape, ih (h.addChar c)]
      simp [Collected.addChar]

theorem readText_quote (s : String) (rest : List Char) :
    readText {} (s.toList.flatMap escape ++ '"' :: rest) = some (some s, rest) := by
  rw [readText_flatMap_escape _ ⟨rfl, rfl⟩]
  simp

/-! ## numbers -/

/-- What follows cannot be taken for more of a number. -/
def EndsNumber (rest : List Char) : Prop :=
  ∀ c ∈ rest.head?, c.isDigit = false ∧ c ≠ '.' ∧ c ≠ 'e' ∧ c ≠ 'E'

theorem EndsNumber.takeWhile (h : EndsNumber rest) : rest.takeWhile Char.isDigit = [] := by
  cases rest with
  | nil => rfl
  | cons c cs => exact List.takeWhile_cons_of_neg (by simp [(h c rfl).1])

theorem EndsNumber.readFraction (h : EndsNumber rest) (negative : Bool) (digits : List Char) :
    readFraction negative digits rest = some (wholeNumber negative digits, rest) := by
  cases rest with
  | nil => rfl
  | cons c cs =>
      obtain ⟨-, hpoint, hlower, hupper⟩ := h c rfl
      rw [readFraction.eq_4]
      · exact fun _ hc => hpoint (List.cons.inj hc).1
      · exact fun _ hc => hlower (List.cons.inj hc).1
      · exact fun _ hc => hupper (List.cons.inj hc).1

theorem readUnsigned_natChars (negative : Bool) (n : Nat) (h : EndsNumber rest) :
    readUnsigned negative (natChars n ++ rest) =
      some (wholeNumber negative (natChars n), rest) := by
  have hdigits : ∀ c ∈ natChars n, c.isDigit = true := fun _ => Text.isDigit_of_mem_natChars
  unfold readUnsigned
  rw [Text.takeWhile_isDigit hdigits h.takeWhile, Text.dropWhile_isDigit hdigits h.takeWhile]
  split
  · next hnil => exact absurd hnil (Text.natChars_ne_nil n)
  · next d ds hzero => exact absurd hzero (Text.natChars_ne_zero_cons n d ds)
  · exact h.readFraction negative (natChars n)

/-- A whole number of 64 bits is read back from its digits. -/
theorem readNumber_intChars {n : Int} (hlow : Word.minInt64 ≤ n) (hhigh : n ≤ Word.maxUInt64)
    (h : EndsNumber rest) :
    readNumber (intChars n ++ rest) = some (some (.integer n), rest) := by
  unfold Word.minInt64 at hlow
  unfold Word.maxUInt64 at hhigh
  unfold intChars
  split
  · next hneg =>
      have hvalue : -(n.natAbs : Int) = n := by omega
      rw [List.cons_append, readNumber, readUnsigned_natChars true _ h]
      unfold wholeNumber
      rw [Text.digitsValue_natChars, if_pos rfl, if_neg (by omega), hvalue]
  · next hnonneg =>
      have hvalue : (n.natAbs : Int) = n := by omega
      have hread := readUnsigned_natChars false n.natAbs h
      have hdigits : ∀ c ∈ natChars n.natAbs, c.isDigit = true :=
        fun _ => Text.isDigit_of_mem_natChars
      rw [readNumber.eq_2, hread]
      · unfold wholeNumber
        rw [Text.digitsValue_natChars, if_neg Bool.false_ne_true, if_neg (by omega), hvalue]
      · intro cs heq
        cases hchars : natChars n.natAbs with
        | nil => exact Text.natChars_ne_nil _ hchars
        | cons d ds =>
            rw [hchars] at heq hdigits
            have hdigit : d.isDigit = true := hdigits d List.mem_cons_self
            rw [(List.cons.inj heq).1] at hdigit
            contradiction

/-! ## values -/

mutual

/-- The numbers of a value are whole and have 64 bits. -/
def IsWhole : Json → Prop
  | .number (.integer n) => Word.minInt64 ≤ n ∧ n ≤ Word.maxUInt64
  | .number (.double _) => False
  | .list items => AreWhole items
  | .object fields => HaveWhole fields
  | _ => True

def AreWhole : List Json → Prop
  | [] => True
  | item :: items => item.IsWhole ∧ AreWhole items

def HaveWhole : List (String × Json) → Prop
  | [] => True
  | field :: fields => field.2.IsWhole ∧ HaveWhole fields

end

/-- The first character of a number. -/
theorem intChars_head (n : Int) : ∃ c cs, intChars n = c :: cs ∧ (c.isDigit = true ∨ c = '-') := by
  cases hchars : intChars n with
  | nil =>
      unfold intChars at hchars
      split at hchars
      · contradiction
      · exact absurd hchars (Text.natChars_ne_nil _)
  | cons c cs =>
      exact ⟨c, cs, rfl, Text.isDigit_or_eq_of_mem_intChars (n := n) (hchars ▸ List.mem_cons_self)⟩

/-- A value is taken neither for white space nor for the end of a list. -/
theorem chars_head : ∀ j : Json, j.IsWhole →
    ∃ c cs, chars j = c :: cs ∧ isSpace c = false ∧ c ≠ ']'
  | .null, _ | .bool true, _ | .bool false, _ => ⟨_, _, rfl, by decide, by decide⟩
  | .text s, _ => ⟨_, _, by rw [chars, quote], by decide, by decide⟩
  | .list [], _ | .object [], _ => ⟨_, _, by rw [chars], by decide, by decide⟩
  | .list (_ :: _), _ | .object (_ :: _), _ => ⟨_, _, by rw [chars], by decide, by decide⟩
  | .number (.integer n), _ => by
      obtain ⟨c, cs, hchars, hdigit | rfl⟩ := intChars_head n
      · have hrange := Text.toNat_of_isDigit hdigit
        have hne : ∀ d : Char, c = d → 48 ≤ d.toNat ∧ d.toNat ≤ 57 := fun d h => h ▸ hrange
        refine ⟨c, cs, hchars, ?_, fun h => absurd (hne _ h) (by decide)⟩
        simp only [isSpace, Bool.or_eq_false_iff, decide_eq_false_iff_not]
        refine ⟨⟨⟨?_, ?_⟩, ?_⟩, ?_⟩ <;> exact fun h => absurd (hne _ h) (by decide)
      · exact ⟨_, cs, hchars, by decide, by decide⟩

theorem skipSpace_cons {c : Char} {cs : List Char} (hc : isSpace c = false) :
    skipSpace (c :: cs) = c :: cs :=
  List.dropWhile_cons_of_neg (by rw [hc]; exact Bool.false_ne_true)

theorem skipSpace_chars (j : Json) (h : j.IsWhole) (rest : List Char) :
    skipSpace (chars j ++ rest) = chars j ++ rest := by
  obtain ⟨c, cs, hchars, hspace, -⟩ := chars_head j h
  rw [hchars]
  exact skipSpace_cons hspace

theorem chars_length_pos (j : Json) (h : j.IsWhole) : 0 < (chars j).length := by
  obtain ⟨c, cs, hchars, -⟩ := chars_head j h
  rw [hchars]
  exact Nat.succ_pos _

theorem itemsChars_length_pos (items : List Json) : 0 < (itemsChars items).length := by
  cases items <;> exact Nat.succ_pos _

theorem fieldsChars_length_pos (fields : List (String × Json)) :
    0 < (fieldsChars fields).length := by
  cases fields <;> exact Nat.succ_pos _

theorem endsNumber_itemsChars (items : List Json) (rest : List Char) :
    EndsNumber (itemsChars items ++ rest) := by
  cases items <;> rintro _ ⟨⟩ <;> decide

theorem endsNumber_fieldsChars (fields : List (String × Json)) (rest : List Char) :
    EndsNumber (fieldsChars fields ++ rest) := by
  cases fields <;> rintro _ ⟨⟩ <;> decide

/-! ### one step of the reader -/

section

variable {cs after : List Char} {c : Char} {past : Option (List Char)}

theorem readValue_number {n : Option Number} (hc : c.isDigit = true ∨ c = '-')
    (h : readNumber (c :: cs) = some (n, rest)) :
    readValue (fuel + 1) (c :: cs) = (.number n, some rest) := by
  have hne : ∀ d : Char, d.isDigit = false → d ≠ '-' → c ≠ d := by
    rintro d hdigit hminus rfl
    rw [hdigit] at hc
    exact hc.elim (fun h => Bool.false_ne_true h) hminus
  have hspace : skipSpace (c :: cs) = c :: cs := by
    refine List.dropWhile_cons_of_neg ?_
    simp only [isSpace, Bool.or_eq_true, decide_eq_true_eq, not_or]
    exact ⟨⟨⟨hne _ rfl (by decide), hne _ rfl (by decide)⟩, hne _ rfl (by decide)⟩,
      hne _ rfl (by decide)⟩
  rw [readValue, hspace]
  split
  · next heq => exact absurd (List.cons.inj heq).1 (hne _ rfl (by decide))
  · next heq => exact absurd (List.cons.inj heq).1 (hne _ rfl (by decide))
  · next heq => exact absurd (List.cons.inj heq).1 (hne _ rfl (by decide))
  · next heq => exact absurd (List.cons.inj heq).1 (hne _ rfl (by decide))
  · next heq => exact absurd (List.cons.inj heq).1 (hne _ rfl (by decide))
  · next heq => exact absurd (List.cons.inj heq).1 (hne _ rfl (by decide))
  · rw [h]

theorem readValue_text {s : Option String} (h : readText {} cs = some (s, rest)) :
    readValue (fuel + 1) ('"' :: cs) = (.text s, some rest) := by
  rw [readValue, skipSpace_cons rfl]
  simp only [h]

theorem readValue_list {items : List Reading} (hspace : skipSpace (c :: cs) = c :: cs)
    (hc : c ≠ ']') (h : readItems fuel (c :: cs) = (items, past)) :
    readValue (fuel + 1) ('[' :: c :: cs) = (.list items, past) := by
  rw [readValue, skipSpace_cons rfl]
  simp only [hspace]
  split
  · next heq => exact absurd (List.cons.inj heq).1 hc
  · rw [h]

theorem readValue_object {fields : List (Option String × Reading)}
    (h : readFields fuel ('"' :: cs) = (fields, past)) :
    readValue (fuel + 1) ('{' :: '"' :: cs) = (.object fields, past) := by
  rw [readValue]
  change (Reading.object (readFields fuel ('"' :: cs)).1, (readFields fuel ('"' :: cs)).2) = _
  rw [h]

theorem readItems_next {item : Reading} {items : List Reading}
    (hitem : readValue fuel cs = (item, some (',' :: after)))
    (hitems : readItems fuel after = (items, past)) :
    readItems (fuel + 1) cs = (item :: items, past) := by
  rw [readItems, hitem]
  change (item :: (readItems fuel after).1, (readItems fuel after).2) = _
  rw [hitems]

theorem readFields_last {key : Option String} {value : Reading}
    (hkey : readText {} cs = some (key, ':' :: after))
    (hvalue : readValue fuel after = (value, some ('}' :: rest))) :
    readFields (fuel + 1) ('"' :: cs) = ([(key, value)], some rest) := by
  have hcolon : skipSpace (':' :: after) = ':' :: after := skipSpace_cons rfl
  have hbrace : skipSpace ('}' :: rest) = '}' :: rest := skipSpace_cons rfl
  rw [readFields, skipSpace_cons rfl]
  simp only [hkey, hcolon, hvalue, hbrace]

theorem readFields_next {key : Option String} {value : Reading} {next : List Char}
    {fields : List (Option String × Reading)}
    (hkey : readText {} cs = some (key, ':' :: after))
    (hvalue : readValue fuel after = (value, some (',' :: next)))
    (hfields : readFields fuel next = (fields, past)) :
    readFields (fuel + 1) ('"' :: cs) = ((key, value) :: fields, past) := by
  have hcolon : skipSpace (':' :: after) = ':' :: after := skipSpace_cons rfl
  have hcomma : skipSpace (',' :: next) = ',' :: next := skipSpace_cons rfl
  rw [readFields, skipSpace_cons rfl]
  simp only [hkey, hcolon, hvalue, hcomma, hfields]

end

/-! ### values -/

mutual

/-- **A value is read back from its text.** -/
theorem readValue_chars : ∀ (j : Json) (fuel : Nat) (rest : List Char), j.IsWhole →
    2 * (chars j).length ≤ fuel → EndsNumber rest →
      readValue fuel (chars j ++ rest) = (toReading j, some rest)
  | j, 0, rest, hwhole, hfuel, hrest => by
      have hpos := chars_length_pos j hwhole
      omega
  | .null, fuel + 1, rest, _, _, _ => rfl
  | .bool true, fuel + 1, rest, _, _, _ => rfl
  | .bool false, fuel + 1, rest, _, _, _ => rfl
  | .number (.integer n), fuel + 1, rest, hwhole, _, hrest => by
      obtain ⟨hlow, hhigh⟩ : Word.minInt64 ≤ n ∧ n ≤ Word.maxUInt64 := hwhole
      have hread := readNumber_intChars hlow hhigh hrest
      obtain ⟨c, cs, hchars, hc⟩ := intChars_head n
      show readValue (fuel + 1) (intChars n ++ rest) = _
      rw [hchars] at hread ⊢
      exact readValue_number hc hread
  | .text s, fuel + 1, rest, _, _, _ => by
      have hread := readText_quote s rest
      simp only [chars, quote, List.cons_append, List.append_assoc, List.nil_append]
      exact readValue_text hread
  | .list [], fuel + 1, rest, _, _, _ => rfl
  | .list (item :: items), fuel + 1, rest, hwhole, hfuel, _ => by
      rw [chars, List.length_cons, List.length_append] at hfuel
      have hitems := readItems_chars item items fuel rest hwhole.1 hwhole.2 (by omega)
      have hskip := skipSpace_chars item hwhole.1 (itemsChars items ++ rest)
      obtain ⟨c, cs, hchars, -, hc⟩ := chars_head item hwhole.1
      rw [chars, List.cons_append, List.append_assoc]
      rw [hchars] at hitems hskip ⊢
      exact readValue_list hskip hc hitems
  | .object [], fuel + 1, rest, _, _, _ => rfl
  | .object (field :: fields), fuel + 1, rest, hwhole, hfuel, _ => by
      simp only [chars, List.length_cons, List.length_append] at hfuel
      have hfields := readFields_chars field fields fuel rest hwhole.1 hwhole.2 (by omega)
      rw [chars]
      simp only [quote, List.cons_append, List.append_assoc] at hfields ⊢
      exact readValue_object hfields

theorem readItems_chars : ∀ (item : Json) (items : List Json) (fuel : Nat) (rest : List Char),
    item.IsWhole → AreWhole items →
      2 * ((chars item).length + (itemsChars items).length) ≤ fuel →
        readItems fuel (chars item ++ (itemsChars items ++ rest)) =
          (toReading item :: itemsReading items, some rest)
  | item, items, 0, rest, hitem, hitems, hfuel => by
      have hpos := chars_length_pos item hitem
      omega
  | item, [], fuel + 1, rest, hitem, hitems, hfuel => by
      have hpos := itemsChars_length_pos []
      have hvalue := readValue_chars item fuel (itemsChars [] ++ rest) hitem (by omega)
        (endsNumber_itemsChars [] rest)
      rw [readItems, hvalue]
      rfl
  | item, next :: items, fuel + 1, rest, hitem, hitems, hfuel => by
      have hpos := itemsChars_length_pos (next :: items)
      have hvalue := readValue_chars item fuel (itemsChars (next :: items) ++ rest) hitem (by omega)
        (endsNumber_itemsChars (next :: items) rest)
      have hitems := readItems_chars next items fuel rest hitems.1 hitems.2 (by
        rw [itemsChars, List.length_cons, List.length_append] at hfuel
        omega)
      rw [← List.append_assoc] at hitems
      exact readItems_next hvalue hitems

theorem readFields_chars : ∀ (field : String × Json) (fields : List (String × Json)) (fuel : Nat)
    (rest : List Char), field.2.IsWhole → HaveWhole fields →
      2 * ((chars field.2).length + (fieldsChars fields).length) ≤ fuel →
        readFields fuel (quote field.1 ++ ':' :: (chars field.2 ++ (fieldsChars fields ++ rest))) =
          ((some field.1, toReading field.2) :: fieldsReading fields, some rest)
  | field, fields, 0, rest, hfield, hfields, hfuel => by
      have hpos := chars_length_pos field.2 hfield
      omega
  | field, [], fuel + 1, rest, hfield, _, hfuel => by
      have hpos := fieldsChars_length_pos []
      have hkey := readText_quote field.1 (':' :: (chars field.2 ++ (fieldsChars [] ++ rest)))
      have hvalue := readValue_chars field.2 fuel (fieldsChars [] ++ rest) hfield (by omega)
        (endsNumber_fieldsChars [] rest)
      rw [quote, List.cons_append, List.append_assoc]
      exact readFields_last hkey hvalue
  | field, next :: fields, fuel + 1, rest, hfield, hfields, hfuel => by
      have hpos := fieldsChars_length_pos (next :: fields)
      have hkey := readText_quote field.1
        (':' :: (chars field.2 ++ (fieldsChars (next :: fields) ++ rest)))
      have hvalue := readValue_chars field.2 fuel (fieldsChars (next :: fields) ++ rest) hfield
        (by omega) (endsNumber_fieldsChars (next :: fields) rest)
      have hlater := readFields_chars next fields fuel rest hfields.1 hfields.2 (by
        simp only [fieldsChars, List.length_cons, List.length_append] at hfuel
        omega)
      rw [quote, List.cons_append, List.append_assoc]
      have hsame : (quote next.1 ++ ':' :: chars next.2 ++ fieldsChars fields) ++ rest =
          quote next.1 ++ ':' :: (chars next.2 ++ (fieldsChars fields ++ rest)) := by
        simp only [List.cons_append, List.append_assoc]
      rw [← hsame] at hlater
      exact readFields_next hkey hvalue hlater

end

/-! ## whole texts -/

mutual

/-- What a value is read as has no break. -/
theorem isComplete_toReading : ∀ j : Json, (toReading j).isComplete = true
  | .null | .bool _ | .number _ | .text _ => rfl
  | .list items => areComplete_itemsReading items
  | .object fields => haveComplete_fieldsReading fields

theorem areComplete_itemsReading : ∀ items : List Json,
    Reading.areComplete (itemsReading items) = true
  | [] => rfl
  | item :: items => by
      rw [itemsReading, Reading.areComplete, isComplete_toReading item,
        areComplete_itemsReading items]
      rfl

theorem haveComplete_fieldsReading : ∀ fields : List (String × Json),
    Reading.haveComplete (fieldsReading fields) = true
  | [] => rfl
  | field :: fields => by
      rw [fieldsReading, Reading.haveComplete, isComplete_toReading field.2,
        haveComplete_fieldsReading fields]
      rfl

end

mutual

/-- What a value is read as is that value. -/
theorem toJson?_toReading : ∀ j : Json, (toReading j).toJson? = some j
  | .null | .bool _ | .number _ | .text _ => rfl
  | .list items => by rw [toReading, Reading.toJson?, itemsJson?_itemsReading items]; rfl
  | .object fields => by rw [toReading, Reading.toJson?, fieldsJson?_fieldsReading fields]; rfl

theorem itemsJson?_itemsReading : ∀ items : List Json,
    Reading.itemsJson? (itemsReading items) = some items
  | [] => rfl
  | item :: items => by
      rw [itemsReading, Reading.itemsJson?, toJson?_toReading item, itemsJson?_itemsReading items]
      rfl

theorem fieldsJson?_fieldsReading : ∀ fields : List (String × Json),
    Reading.fieldsJson? (fieldsReading fields) = some fields
  | [] => rfl
  | field :: fields => by
      rw [fieldsReading, Reading.fieldsJson?, toJson?_toReading field.2,
        fieldsJson?_fieldsReading fields]
      rfl

end

/-- **The text of a value is JSON from its first to its last character, and reads as the value.** -/
theorem readWhole?_render {j : Json} (h : j.IsWhole) :
    readWhole? j.render = some (toReading j) := by
  have hvalue := readValue_chars j (2 * (chars j).length + 1) [] h (Nat.le_succ _)
    fun _ h => nomatch h
  rw [List.append_nil] at hvalue
  unfold readWhole? render read
  rw [String.toList_ofList, hvalue]
  exact if_pos (isComplete_toReading j)

/-- The reader of whole values finds the value of a text. -/
theorem parse?_render {j : Json} (h : j.IsWhole) : parse? j.render = some j := by
  have hread := readWhole?_render h
  unfold readWhole? at hread
  unfold parse?
  split at hread
  · next r _ =>
      split at hread
      · obtain rfl : r = toReading j := Option.some.inj hread
        exact toJson?_toReading j
      · contradiction
  · contradiction

/-! ## bytes -/

/-- Characters without gaps are JSON text as they are. -/
theorem fillGaps_map_some (done : List Char) (escaping : Bool) (cs : List Char) :
    fillGaps done escaping (cs.map some) = done.reverse ++ cs := by
  induction cs generalizing done escaping with
  | nil => simp [fillGaps]
  | cons c cs ih => simp [fillGaps, ih]

/-- **A value is read back from the bytes of its text.** -/
theorem readBytes?_utf8_render {j : Json} (h : j.IsWhole) :
    readBytes? (Text.utf8 j.render.toList) = some (toReading j) := by
  rw [readBytes?, charsOf, Text.utf8Chars_utf8, fillGaps_map_some, List.reverse_nil,
    List.nil_append, String.ofList_toList, readWhole?_render h]

end ChatService.Json
