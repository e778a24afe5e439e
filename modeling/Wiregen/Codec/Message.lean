import Wiregen.Codec.Catalog

/-!
# Messages

The values that codecs write and read. A message has one slot for each of its fields, and a slot
holds what the shape of its field asks for, so no value is ever of the wrong type. The two lists of
a map may differ in length; only a message where they do not can be written.
-/

namespace Wiregen.Codec

open Schema (Shape)
open Wire (Scalar)

mutual

/-- A value of a field. -/
inductive Value (c : Catalog) : Element c.size → Type where
  | scalar {s : Scalar} (v : s.Carrier) : Value c (.scalar s)
  | message {i : Fin c.size} (m : Slots c (c.fields i)) : Value c (.message i)

/-- Values of one field in a row. -/
inductive Values (c : Catalog) : Element c.size → Type where
  | nil {e : Element c.size} : Values c e
  | cons {e : Element c.size} (v : Value c e) (vs : Values c e) : Values c e

/-- What a message holds for a field. -/
inductive Slot (c : Catalog) : Shape (Element c.size) → Type where
  | scalar {s : Scalar} (v : s.Carrier) : Slot c (.singular (.scalar s))
  | absent {i : Fin c.size} : Slot c (.singular (.message i))
  | present {i : Fin c.size} (m : Slots c (c.fields i)) : Slot c (.singular (.message i))
  | repeated {e : Element c.size} (vs : Values c e) : Slot c (.repeated e)
  | map {k v : Element c.size} (keys : Values c k) (values : Values c v) : Slot c (.map k v)

/-- What a message holds for fields in a row. -/
inductive Slots (c : Catalog) : List (Field c.size) → Type where
  | nil : Slots c []
  | cons {f : Field c.size} {fs : List (Field c.size)} (slot : Slot c f.shape)
      (slots : Slots c fs) : Slots c (f :: fs)

end

/-- A message of the catalog. -/
abbrev Message (c : Catalog) (i : Fin c.size) : Type := Slots c (c.fields i)

variable {c : Catalog}

namespace Values

variable {e : Element c.size}

/-- The values as a list. -/
def toList : Values c e → List (Value c e)
  | .nil => []
  | .cons v vs => v :: vs.toList

/-- The number of values. -/
def length : Values c e → Nat
  | .nil => 0
  | .cons _ vs => vs.length + 1

/-- The values with one more behind them. -/
def push (v : Value c e) : Values c e → Values c e
  | .nil => .cons v .nil
  | .cons w ws => .cons w (ws.push v)

/-- The values of a list. -/
def ofList : List (Value c e) → Values c e
  | [] => .nil
  | v :: vs => .cons v (ofList vs)

/-- A value pushed stands at the end. -/
@[simp] theorem toList_push (v : Value c e) : (vs : Values c e) →
    (vs.push v).toList = vs.toList ++ [v]
  | .nil => rfl
  | .cons w ws => by simp [push, toList, toList_push v ws]

/-- The values of a list are those in it. -/
@[simp] theorem toList_ofList (vs : List (Value c e)) : (ofList vs).toList = vs := by
  induction vs with
  | nil => rfl
  | cons v vs ih => simp [ofList, toList, ih]

/-- Values are those of their list. -/
@[simp] theorem ofList_toList : (vs : Values c e) → ofList vs.toList = vs
  | .nil => rfl
  | .cons v vs => by simp [toList, ofList, ofList_toList vs]

/-- Values are as many as their list has. -/
@[simp] theorem length_toList : (vs : Values c e) → vs.toList.length = vs.length
  | .nil => rfl
  | .cons v vs => by simp [toList, length, length_toList vs]

end Values

/-! ## Defaults -/

/-- What a message holds for a field before one is read: the default of a scalar, and nothing
else. -/
def Slot.default : (shape : Shape (Element c.size)) → Slot c shape
  | .singular (.scalar s) => .scalar s.default
  | .singular (.message _) => .absent
  | .repeated _ => .repeated .nil
  | .map _ _ => .map .nil .nil

/-- What a message holds for fields in a row before one is read. -/
def Slots.default : (fields : List (Field c.size)) → Slots c fields
  | [] => .nil
  | f :: fs => .cons (.default f.shape) (.default fs)

/-- The message before anything is read. -/
def Message.default (i : Fin c.size) : Message c i := Slots.default (c.fields i)

/-- A value before one is read. -/
def Value.default : (e : Element c.size) → Value c e
  | .scalar s => .scalar s.default
  | .message i => .message (Message.default i)

end Wiregen.Codec
