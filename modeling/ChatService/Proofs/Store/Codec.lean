import ChatService.Proofs.Json.Reading
import ChatService.Proofs.Time.Rfc3339
import ChatService.Store.Model

/-!
# Applications read back from JSON

The text of an application holds all of it: an application with counts of 64 bits and moments that
can be written is read back from its text unchanged.
-/

namespace ChatService.Store

open Json (toReading)

theorem isWhole_int {n : Int} (h : Word.IsInt64 n) : (Json.int n).IsWhole := by
  obtain ⟨hlow, hhigh⟩ := h
  refine ⟨hlow, ?_⟩
  unfold Word.maxInt64 at hhigh
  unfold Word.maxUInt64
  omega

theorem isWhole_nat {n : Nat} (h : n ≤ Word.maxUInt64) : (Json.nat n).IsWhole := by
  unfold Word.maxUInt64 at h
  exact ⟨by unfold Word.minInt64; omega, by unfold Word.maxUInt64; omega⟩

theorem int64_toReading {n : Int} (h : Word.IsInt64 n) :
    (toReading (.int n)).int64 = .ok n := if_pos h

theorem timeOf?_toReading {t : Timestamp} (h : t.IsValid) :
    timeOf? (toReading (timeJson t)) = some t := by
  rw [timeOf?, timeJson, toReading, Json.Reading.string, Except.toOption, Option.bind_some,
    Timestamp.parse?_render h]

namespace Application

/-- The counts of an application have 64 bits, and its moments can be written. -/
structure IsWritable (a : Application) : Prop where
  chatsCount : Word.IsInt64 a.chatsCount
  lastChatNumber : Word.IsInt64 a.lastChatNumber
  createdAt : a.createdAt.IsValid
  updatedAt : a.updatedAt.IsValid

variable {a : Application}

theorem IsWritable.isWhole_toJson (h : a.IsWritable) : a.toJson.IsWhole :=
  ⟨trivial, trivial, trivial, isWhole_int h.chatsCount, isWhole_int h.lastChatNumber, trivial,
    trivial, trivial⟩

theorem record?_toReading (a : Application) :
    (toReading a.toJson).record? fieldNames =
      some [toReading (.text a.id), toReading (.text a.token), toReading (.text a.name),
        toReading (.int a.chatsCount), toReading (.int a.lastChatNumber),
        toReading (timeJson a.createdAt), toReading (timeJson a.updatedAt)] := by
  rfl

theorem IsWritable.ofReading?_toReading (h : a.IsWritable) :
    ofReading? (toReading a.toJson) = some a := by
  unfold ofReading?
  rw [record?_toReading]
  dsimp only
  rw [int64_toReading h.chatsCount, int64_toReading h.lastChatNumber, timeOf?_toReading h.createdAt,
    timeOf?_toReading h.updatedAt]
  rfl

/-- **An application is read back from its text.** -/
theorem IsWritable.ofReading?_render (h : a.IsWritable) :
    (Json.readWhole? a.toJson.render).bind ofReading? = some a := by
  rw [Json.readWhole?_render h.isWhole_toJson, Option.bind_some, h.ofReading?_toReading]

end Application

end ChatService.Store
