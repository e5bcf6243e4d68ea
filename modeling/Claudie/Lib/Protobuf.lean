import Claudie.Lib.Keyed
import Claudie.Lib.Outcome

/-!
Enumerations by the names of their values, and messages that are marshalled to bytes.
-/

namespace Protobuf

/--
An enumeration. Its values are told apart by their names, and a name that none of them has is read as
the value with the number 0.
-/
class Enum (α : Type) where
  values : List α
  name : α → String
  zero : α
  mem_values : ∀ a, a ∈ values
  nodup_names : (values.map name).Nodup

def Enum.value {α : Type} [Enum α] (s : String) : α :=
  (Enum.values.find? (fun a : α => Enum.name a = s)).getD Enum.zero

@[simp]
theorem Enum.value_name {α : Type} [Enum α] (a : α) : Enum.value (Enum.name a) = a := by
  rw [Enum.value, (List.find?_key_eq_some Enum.nodup_names).mpr ⟨Enum.mem_values a, rfl⟩,
    Option.getD_some]

/--
A message that is marshalled as a whole. A message with no field set has no bytes.
-/
class Message (α : Type) where
  empty : α
  marshal : α → List UInt8
  unmarshal : List UInt8 → Outcome α
  unmarshal_marshal : ∀ m, unmarshal (marshal m) = .ok m
  marshal_empty : marshal empty = []

def marshal {α : Type} [Message α] : Option α → List UInt8
  | none => []
  | some m => Message.marshal m

section

variable {α : Type} [Message α] {m : α}

theorem marshal_eq_nil : Message.marshal m = [] ↔ m = Message.empty := by
  constructor
  · intro h
    have hm := Message.unmarshal_marshal m
    rw [h, ← Message.marshal_empty (α := α), Message.unmarshal_marshal] at hm
    exact (Except.ok.inj hm).symm
  · rintro rfl
    exact Message.marshal_empty

theorem unmarshal_nil : Message.unmarshal [] = .ok (Message.empty : α) := by
  rw [← Message.marshal_empty (α := α), Message.unmarshal_marshal]

theorem unmarshal_marshal_getD (o : Option α) :
    Message.unmarshal (marshal o) = .ok (o.getD Message.empty) := by
  cases o with
  | none => exact unmarshal_nil
  | some m => exact Message.unmarshal_marshal m

end

end Protobuf
