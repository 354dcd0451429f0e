import StateLint.Json.Basic

namespace StateLint.Json

variable {α : Type}

def toStr? : Json → Option String
  | str s => some s
  | _ => none

def toBool? : Json → Option Bool
  | bool b => some b
  | _ => none

def toNat? (bound : Nat) : Json → Option Nat
  | int (.ofNat n) => if n < bound then some n else none
  | _ => none

def toUInt32? (j : Json) : Option UInt32 :=
  (j.toNat? UInt32.size).map .ofNat

def toCount? : Json → Option Nat :=
  toNat? UInt64.size

def toList? (item? : Json → Option α) : Json → Option (List α)
  | arr items => items.mapM item?
  | _ => none

-- A word out of a fixed choice: a text, or an object whose one member is null.
def toWord? : Json → Option String
  | str s => some s
  | obj [(s, null)] => some s
  | _ => none

def toOption? (some? : Json → Option α) : Json → Option (Option α)
  | null => some none
  | j => (some? j).map some

structure Record where
  field? (place : Nat) (name : String) : Option Json
  -- Whether the record was written as an array.
  isArray : Bool

def toRecord? (count : Nat) : Json → Option Record
  | obj members => some ⟨fun _ name => member? members name, false⟩
  | arr items => if items.length ≤ count then some ⟨fun place _ => items[place]?, true⟩ else none
  | _ => none

namespace Record

def required (r : Record) (place : Nat) (name : String) (value? : Json → Option α) : Option α :=
  (r.field? place name).bind value?

-- A field that may be missing, but not from an array, and may be null.
def nullable (r : Record) (place : Nat) (name : String) (value? : Json → Option α) :
    Option (Option α) :=
  match r.field? place name with
  | some j => j.toOption? value?
  | none => if r.isArray then none else some none

def defaulted (r : Record) (place : Nat) (name : String) (value? : Json → Option α) (default : α) :
    Option α :=
  match r.field? place name with
  | some j => value? j
  | none => some default

end Record
end StateLint.Json
