/-!
# Cutting text at a separator
-/

namespace ChatService.Text

variable {α : Type} [DecidableEq α]

/-- What stands before and behind the first separator, if there is one. -/
def cut? (separator : α) : List α → Option (List α × List α)
  | [] => none
  | c :: rest =>
    if c = separator then some ([], rest)
    else
      match cut? separator rest with
      | some (before, behind) => some (c :: before, behind)
      | none => none

/-- What stands before the first separator, and what stands behind it if there is one. -/
def cut (separator : α) (cs : List α) : List α × Option (List α) :=
  match cut? separator cs with
  | some parts => (parts.1, some parts.2)
  | none => (cs, none)

/-- What stands before, between and behind the separators. -/
def splitAt (separator : α) : List α → List (List α)
  | [] => [[]]
  | c :: rest =>
    match splitAt separator rest with
    | first :: others =>
      if c = separator then [] :: first :: others else (c :: first) :: others
    | [] => [[c]]

/-- A cut takes nothing away but the separator. -/
theorem eq_of_cut? {separator : α} {cs before behind : List α}
    (h : cut? separator cs = some (before, behind)) : cs = before ++ separator :: behind := by
  induction cs generalizing before behind with
  | nil => simp [cut?] at h
  | cons c rest ih => grind [cut?]

end ChatService.Text
