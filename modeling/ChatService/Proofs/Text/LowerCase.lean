import ChatService.Text.LowerCase

/-!
# Lower case of a part of a text

A character is put into lower case by itself, except for the capital sigma, whose form hangs on its
neighbours.  So a part of a text has the same lower-case form in the text as on its own exactly when
each of its capital sigmas ends a word in the text if and only if it does so in the part.
-/

namespace ChatService.Text

/-- A capital sigma between two texts ends a word; the text in front of it is given last character
first. -/
def endsWord (before after : List Char) : Bool := meetsCased before && !meetsCased after

/-- The lower-case form of a character between two texts. -/
def lowerBetween (before after : List Char) (c : Char) : List Char :=
  if c = 'Σ' then if endsWord before after then ['ς'] else ['σ'] else lowerChar c

/-- The lower-case form of a part of a text; `before` and `after` are what stands around it, the
former last character first. -/
def lowerPart (before after : List Char) : List Char → List Char
  | [] => []
  | c :: rest => lowerBetween before (rest ++ after) c ++ lowerPart (c :: before) after rest

variable {before before' after after' text : List Char}

theorem lowerFrom_eq_lowerPart (before cs : List Char) :
    lowerFrom before cs = lowerPart before [] cs := by
  induction cs generalizing before with
  | nil => rfl
  | cons c rest ih => rw [lowerFrom, lowerPart, ih, List.append_nil]; rfl

/-- The lower-case form of a text is that of its parts, each seen where it stands. -/
theorem lowerPart_append (before after xs ys : List Char) :
    lowerPart before after (xs ++ ys) =
      lowerPart before (ys ++ after) xs ++ lowerPart (xs.reverse ++ before) after ys := by
  induction xs generalizing before with
  | nil => rfl
  | cons c rest ih =>
      simp only [List.cons_append, lowerPart, ih, List.append_assoc, List.reverse_cons,
        List.nil_append]

theorem lowerPart_infix (before after text : List Char) :
    lowerPart before.reverse after text <:+: lowerFrom [] (before ++ text ++ after) := by
  refine ⟨lowerPart [] (text ++ after) before,
    lowerPart (text.reverse ++ before.reverse) [] after, ?_⟩
  simp only [lowerFrom_eq_lowerPart, lowerPart_append, List.append_nil, List.reverse_append]

/-- Only a sigma has different forms, and they are equally long. -/
theorem lowerBetween_inj {c : Char} {xs ys : List Char} :
    lowerBetween before after c ++ xs = lowerBetween before' after' c ++ ys ↔
      (c = 'Σ' → endsWord before after = endsWord before' after') ∧ xs = ys := by
  unfold lowerBetween
  by_cases hc : c = 'Σ'
  · cases endsWord before after <;> cases endsWord before' after' <;> simp [hc]
  · simp [hc]

/-- The capital sigmas of a part of a text end words where it stands as they do in the part on its
own. -/
def KeepsSigmas (before after text : List Char) : Prop :=
  ∀ front back, text = front ++ 'Σ' :: back →
    endsWord (front.reverse ++ before.reverse) (back ++ after) = endsWord front.reverse back

theorem keepsSigmas_of_not_mem (h : 'Σ' ∉ text) : KeepsSigmas before after text := by
  rintro front back rfl
  exact absurd (List.mem_append_right _ List.mem_cons_self) h

/-- Two places give a part of a text the same lower-case form when they agree on every capital sigma
of it. -/
theorem lowerPart_eq_iff : lowerPart before after text = lowerPart before' after' text ↔
    ∀ front back, text = front ++ 'Σ' :: back →
      endsWord (front.reverse ++ before) (back ++ after) =
        endsWord (front.reverse ++ before') (back ++ after') := by
  induction text generalizing before before' with
  | nil => simp [lowerPart]
  | cons c rest ih =>
      rw [lowerPart, lowerPart, lowerBetween_inj, ih]
      constructor
      · rintro ⟨hhead, hrest⟩ front back heq
        cases front with
        | nil =>
            obtain ⟨rfl, rfl⟩ := List.cons.inj heq
            exact hhead rfl
        | cons f front =>
            obtain ⟨rfl, rfl⟩ := List.cons.inj heq
            simpa using hrest front back rfl
      · intro h
        refine ⟨fun hc => h [] rest (by rw [hc]; rfl), fun front back heq => ?_⟩
        simpa using h (c :: front) back (by rw [heq]; rfl)

/-- **A part of a text keeps its lower-case form exactly when it keeps its sigmas.** -/
theorem lowerPart_eq_lowerFrom_iff :
    lowerPart before.reverse after text = lowerFrom [] text ↔ KeepsSigmas before after text := by
  rw [lowerFrom_eq_lowerPart, lowerPart_eq_iff]
  simp only [List.append_nil]
  rfl

/-- A text that stands in another one, and keeps its sigmas there, stands in it in lower case. -/
theorem KeepsSigmas.lower_infix (h : KeepsSigmas before after text) :
    lowerFrom [] text <:+: lowerFrom [] (before ++ text ++ after) :=
  lowerPart_eq_lowerFrom_iff.mpr h ▸ lowerPart_infix before after text

end ChatService.Text
