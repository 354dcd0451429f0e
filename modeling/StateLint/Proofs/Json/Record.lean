import StateLint.Json.Record

namespace StateLint.Json

variable {α β : Type}

@[simp]
theorem member?_nil {key} : member? [] key = none := rfl

@[simp]
theorem member?_cons {m : String × Json} {ms key} :
    member? (m :: ms) key = (member? ms key).or (if m.1 = key then some m.2 else none) := by
  simp only [member?, List.reverse_cons, List.find?_append, List.find?_singleton, decide_eq_true_eq,
    Option.map_or]
  split <;> rfl

@[simp]
theorem member?_append {ms ns key} :
    member? (ms ++ ns) key = (member? ns key).or (member? ms key) := by
  simp [member?, List.find?_append, Option.map_or]

theorem member?_eq_none {ms : List (String × Json)} {key} (h : key ∉ ms.map (·.1)) :
    member? ms key = none := by
  induction ms with
  | nil => rfl
  | cons m ms ih => grind [member?_cons]

theorem member?_of_mem {ms : List (String × Json)} {m} (hn : (ms.map (·.1)).Nodup) (hm : m ∈ ms) :
    member? ms m.1 = some m.2 := by
  induction ms with
  | nil => simp at hm
  | cons n ms ih =>
    obtain ⟨hn', hs⟩ := List.nodup_cons.mp hn
    rcases List.mem_cons.mp hm with rfl | hm
    · simp [member?_eq_none hn']
    · simp [ih hs hm]

@[simp]
theorem toUInt32?_nat (n : UInt32) : (nat n.toNat).toUInt32? = some n := by
  simp [nat, toUInt32?, toNat?, n.toNat_lt_size]

theorem toCount?_nat {n : Nat} (h : n < UInt64.size) : (nat n).toCount? = some n := by
  simp [nat, toCount?, toNat?, h]

theorem lt_of_toCount? {j : Json} {n} (h : j.toCount? = some n) : n < UInt64.size := by
  unfold toCount? toNat? at h
  split at h
  · split at h
    · simp_all
    · contradiction
  · contradiction

theorem toList?_map {item? : Json → Option α} {write : α → Json}
    (h : ∀ x, item? (write x) = some x) (xs : List α) :
    toList? item? (arr (xs.map write)) = some xs := by
  induction xs with
  | nil => rfl
  | cons x xs ih =>
    simp only [toList?] at ih
    simp [toList?, h, ih]

@[simp]
theorem toList?_strs (xs : List String) : toList? toStr? (strs xs) = some xs :=
  toList?_map (fun x => show toStr? (str x) = some x from rfl) xs

@[simp]
theorem toOption?_str? (x : Option String) : toOption? toStr? (str? x) = some x := by
  cases x <;> rfl

inductive Field where
  | required (name : String)
  | nullable (name : String)
  | defaulted (name : String) (value : Json)

namespace Field

def name : Field → String
  | required name | nullable name | defaulted name _ => name

def missing? (isArray : Bool) : Field → Option Json
  | required _ => none
  | nullable _ => if isArray then none else some null
  | defaulted _ value => some value

end Field

namespace Record

-- The value of a field, or what stands for it.
def value? (r : Record) (place : Nat) (f : Field) : Option Json :=
  (r.field? place f.name).or (f.missing? r.isArray)

theorem required_eq (r : Record) (place : Nat) (name : String) (read? : Json → Option α) :
    r.required place name read? = (r.value? place (.required name)).bind read? := by
  simp [required, value?, Field.name, Field.missing?]

theorem nullable_eq (r : Record) (place : Nat) (name : String) (read? : Json → Option α) :
    r.nullable place name read? = (r.value? place (.nullable name)).bind (toOption? read?) := by
  simp only [nullable, value?, Field.name, Field.missing?]
  cases r.field? place name with
  | none => cases r.isArray <;> rfl
  | some j => rfl

theorem defaulted_eq (r : Record) (place : Nat) (name : String) {read? : Json → Option α}
    {default j} (h : read? j = some default) :
    r.defaulted place name read? default = (r.value? place (.defaulted name j)).bind read? := by
  simp only [defaulted, value?, Field.name, Field.missing?]
  cases r.field? place name <;> simp [h]

def values? (r : Record) (place : Nat) : List Field → Option (List Json)
  | [] => some []
  | f :: fs => do
    let j ← r.value? place f
    let js ← r.values? (place + 1) fs
    return j :: js

theorem values?_cons_eq_some {r : Record} {place f fs js} :
    r.values? place (f :: fs) = some js ↔
      ∃ j js', r.value? place f = some j ∧ r.values? (place + 1) fs = some js' ∧ js = j :: js' := by
  simp only [values?, Option.bind_eq_bind, Option.bind_eq_some_iff]
  grind

theorem length_of_values? {r : Record} {place fields js} (h : r.values? place fields = some js) :
    js.length = fields.length := by
  induction fields generalizing place js with
  | nil => simp_all [values?]
  | cons f fs ih =>
    obtain ⟨j, js', -, hs, rfl⟩ := values?_cons_eq_some.mp h
    simp [ih hs]

theorem values?_of_field? {r : Record} {fields : List Field} {js : List Json}
    (hl : js.length = fields.length)
    (h : ∀ e ∈ fields.zip js, ∀ place, r.field? place e.1.name = some e.2) (place : Nat) :
    r.values? place fields = some js := by
  induction fields generalizing place js with
  | nil => simp_all [values?]
  | cons f fs ih =>
    obtain _ | ⟨j, js⟩ := js
    · simp at hl
    have hj : r.value? place f = some j := by simp [value?, h (f, j) (by simp) place]
    have hs := ih (by simpa using hl) (fun e he => h e (by simp [he])) (place + 1)
    exact values?_cons_eq_some.mpr ⟨j, js, hj, hs, rfl⟩

end Record

-- The values of all fields of a record, in whatever form it is. There are none if one is missing
-- that has to be there.
def fieldValues? (fields : List Field) (j : Json) : Option (List Json) :=
  (j.toRecord? fields.length).bind (·.values? 0 fields)

theorem Record.values?_object (ms : List (String × Json)) (place : Nat) (fields : List Field) :
    Record.values? ⟨fun _ name => member? ms name, false⟩ place fields =
      fields.mapM fun f => (member? ms f.name).or (f.missing? false) := by
  induction fields generalizing place with
  | nil => rfl
  | cons f fs ih => simp [values?, value?, ih]

theorem fieldValues?_obj (fields : List Field) (ms : List (String × Json)) :
    fieldValues? fields (obj ms) = fields.mapM fun f => (member? ms f.name).or (f.missing? false) :=
  Record.values?_object ms 0 fields

def ofFields (fields : List Field) (values : List Json) : Json :=
  obj ((fields.map Field.name).zip values)

theorem fieldValues?_ofFields {fields : List Field} {js} (hn : (fields.map Field.name).Nodup)
    (hl : js.length = fields.length) : fieldValues? fields (ofFields fields js) = some js := by
  refine Record.values?_of_field? hl (fun e he _ => ?_) 0
  refine member?_of_mem (m := (e.1.name, e.2)) ?_ ?_
  · rwa [List.map_fst_zip (by simp [hl])]
  · rw [List.zip_map_left]
    exact List.mem_map_of_mem he

-- Whether what `read` makes of a record is told by the values of the fields from some place on.
def ReadsFields (place : Nat) (fields : List Field) (read : Record → Option α) : Prop :=
  ∃ build : List Json → Option α, ∀ r : Record, read r = (r.values? place fields).bind build

namespace ReadsFields

variable {place : Nat} {fields : List Field}

theorem done (a : α) : ReadsFields place [] fun _ => some a :=
  ⟨fun _ => some a, fun _ => rfl⟩

theorem cons {f : Field} {read? : Json → Option β} {first : Record → Option β}
    {next : β → Record → Option α} (hf : ∀ r : Record, first r = (r.value? place f).bind read?)
    (hn : ∀ b, ReadsFields (place + 1) fields (next b)) :
    ReadsFields place (f :: fields) fun r => first r >>= fun b => next b r := by
  obtain ⟨build, hb⟩ := Classical.skolem.mp hn
  refine ⟨fun js => js.head?.bind fun j => (read? j).bind fun b => build b js.tail, fun r => ?_⟩
  simp only [hf, hb, Record.values?, Option.bind_eq_bind, Option.bind_assoc]
  cases r.value? place f with
  | none => rfl
  | some j => cases r.values? (place + 1) fields <;> simp

theorem required {name : String} {read? : Json → Option β} {next : β → Record → Option α}
    (hn : ∀ b, ReadsFields (place + 1) fields (next b)) :
    ReadsFields place (.required name :: fields) fun r =>
      r.required place name read? >>= fun b => next b r :=
  cons (fun r => r.required_eq place name read?) hn

theorem nullable {name : String} {read? : Json → Option β} {next : Option β → Record → Option α}
    (hn : ∀ b, ReadsFields (place + 1) fields (next b)) :
    ReadsFields place (.nullable name :: fields) fun r =>
      r.nullable place name read? >>= fun b => next b r :=
  cons (fun r => r.nullable_eq place name read?) hn

theorem defaulted {name : String} {read? : Json → Option β} {default : β} {j : Json}
    {next : β → Record → Option α} (hd : read? j = some default)
    (hn : ∀ b, ReadsFields (place + 1) fields (next b)) :
    ReadsFields place (.defaulted name j :: fields) fun r =>
      r.defaulted place name read? default >>= fun b => next b r :=
  cons (fun r => r.defaulted_eq place name hd) hn

theorem read_eq {read : Record → Option α} (h : ReadsFields 0 fields read)
    (hn : (fields.map Field.name).Nodup) (j : Json) :
    (j.toRecord? fields.length).bind read =
      (fieldValues? fields j).bind fun js =>
        ((ofFields fields js).toRecord? fields.length).bind read := by
  obtain ⟨build, hb⟩ := h
  have hr (j : Json) : (j.toRecord? fields.length).bind read =
      (fieldValues? fields j).bind build := by
    rw [fieldValues?, Option.bind_assoc]
    exact congrArg _ (funext hb)
  simp only [hr]
  cases hv : fieldValues? fields j with
  | none => rfl
  | some js =>
    obtain ⟨r, -, hr⟩ := Option.bind_eq_some_iff.mp hv
    simp [fieldValues?_ofFields hn (Record.length_of_values? hr)]

end ReadsFields

-- Whether `read` makes `a` of a record in which the fields from some place on have these values.
def ReadsAs (place : Nat) (fields : List Field) (js : List Json) (read : Record → Option α)
    (a : α) : Prop :=
  ∀ r : Record, r.values? place fields = some js → read r = some a

namespace ReadsAs

variable {place : Nat} {fields : List Field} {j : Json} {js : List Json} {a : α} {b : β}

theorem done (a : α) : ReadsAs place [] [] (fun _ => some a) a :=
  fun _ _ => rfl

theorem cons {f : Field} {read? : Json → Option β} {first : Record → Option β}
    {next : β → Record → Option α} (hf : ∀ r : Record, first r = (r.value? place f).bind read?)
    (hj : read? j = some b) (hn : ReadsAs (place + 1) fields js (next b) a) :
    ReadsAs place (f :: fields) (j :: js) (fun r => first r >>= fun b => next b r) a := by
  intro r h
  obtain ⟨_, _, hv, hs, he⟩ := Record.values?_cons_eq_some.mp h
  obtain ⟨rfl, rfl⟩ := List.cons.inj he
  simp [hf r, hv, hj, hn r hs]

theorem required {name : String} {read? : Json → Option β} {next : β → Record → Option α}
    (hj : read? j = some b) (hn : ReadsAs (place + 1) fields js (next b) a) :
    ReadsAs place (.required name :: fields) (j :: js) (fun r =>
      r.required place name read? >>= fun b => next b r) a :=
  cons (fun r => r.required_eq place name read?) hj hn

theorem nullable {name : String} {read? : Json → Option β} {b : Option β}
    {next : Option β → Record → Option α} (hj : j.toOption? read? = some b)
    (hn : ReadsAs (place + 1) fields js (next b) a) :
    ReadsAs place (.nullable name :: fields) (j :: js) (fun r =>
      r.nullable place name read? >>= fun b => next b r) a :=
  cons (fun r => r.nullable_eq place name read?) hj hn

theorem defaulted {name : String} {read? : Json → Option β} {default : β} {d : Json}
    {next : β → Record → Option α} (hd : read? d = some default) (hj : read? j = some b)
    (hn : ReadsAs (place + 1) fields js (next b) a) :
    ReadsAs place (.defaulted name d :: fields) (j :: js)
      (fun r => r.defaulted place name read? default >>= fun b => next b r) a :=
  cons (fun r => r.defaulted_eq place name hd) hj hn

theorem read_eq {read : Record → Option α} (h : ReadsAs 0 fields js read a) {j : Json}
    (hj : fieldValues? fields j = some js) : (j.toRecord? fields.length).bind read = some a := by
  obtain ⟨r, hr, hv⟩ := Option.bind_eq_some_iff.mp hj
  rw [hr, Option.bind_some, h r hv]

end ReadsAs
end StateLint.Json
