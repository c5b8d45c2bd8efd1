/-!
# Keyed lists

Finite maps as lists of pairs. Lookups find the first pair with a key.
-/

namespace ChatService

/-- A finite map whose entries have an order. -/
abbrev Keyed (κ ν : Type) : Type := List (κ × ν)

namespace Keyed

variable {κ ν : Type} [DecidableEq κ]

/-- The value of a key. -/
def get? (key : κ) : Keyed κ ν → Option ν
  | [] => none
  | entry :: rest => if entry.1 = key then some entry.2 else get? key rest

/-- Gives a key a value: in its place if it has one already, else at the end. -/
def put (key : κ) (value : ν) : Keyed κ ν → Keyed κ ν
  | [] => [(key, value)]
  | entry :: rest => if entry.1 = key then (key, value) :: rest else entry :: put key value rest

/-- Gives a whole number a value, in front of the first larger number. -/
def putAscending (key : Int) (value : ν) : Keyed Int ν → Keyed Int ν
  | [] => [(key, value)]
  | entry :: rest =>
    if key < entry.1 then (key, value) :: entry :: rest
    else if entry.1 = key then (key, value) :: rest
    else entry :: putAscending key value rest

/-- Removes a key. -/
def erase (key : κ) (entries : Keyed κ ν) : Keyed κ ν := entries.filter fun entry => entry.1 ≠ key

/-- Changes the value of a key that has one. -/
def update (key : κ) (f : ν → ν) (entries : Keyed κ ν) : Keyed κ ν :=
  entries.map fun entry => if entry.1 = key then (entry.1, f entry.2) else entry

theorem get?_put (key other : κ) (value : ν) (entries : Keyed κ ν) :
    get? other (put key value entries) =
      if key = other then some value else get? other entries := by
  induction entries with
  | nil => simp [put, get?]
  | cons entry rest ih => grind [put, get?]

theorem get?_erase (key other : κ) (entries : Keyed κ ν) :
    get? other (erase key entries) = if key = other then none else get? other entries := by
  induction entries with
  | nil => simp [erase, get?]
  | cons entry rest ih => grind [erase, get?]

theorem get?_update (key other : κ) (f : ν → ν) (entries : Keyed κ ν) :
    get? other (update key f entries) =
      if key = other then (get? other entries).map f else get? other entries := by
  induction entries with
  | nil => simp [update, get?]
  | cons entry rest ih => grind [update, get?]

end Keyed

end ChatService
