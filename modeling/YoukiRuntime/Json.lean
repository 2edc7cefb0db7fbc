import YoukiRuntime.Registry

/-!
# JSON as `serde` writes and reads it

The command-line client sends its requests as `serde_json` renders a derived `Serialize`,
and the API server reads them with axum's `Json` extractor, that is with a derived
`Deserialize`. Both are library code; this module models the part of them that the
messages of the sources use.

A derived `Serialize` writes a struct as an object with one entry per field, in the order
of declaration. A derived `Deserialize` reads a struct from an object field by field: an
entry whose key is not a field is skipped, a field given twice is an error, and a field
with no entry is an error unless it has a default (`#[serde(default)]`, or `None` for an
`Option`). A number must fit the integer type of its field. Where an object has several
faults, `serde` reports the first it meets in the order of the entries and then the first
missing field; the model reports the first field's fault in the order of declaration. The
two agree on every value read here, whose only faults are its own type or missing fields.

A `HashMap` is written in its iteration order, which `std` leaves unspecified: the writer
takes that order as a list of entries that `Enumerates` the map, each key once.

## Main results

* `decodeVec_map`: a `Vec` is read element by element.
* `decodeStringMap_of_enumerates`: a map of strings is read back as the same map, whatever
  order it was written in.
-/

namespace YoukiRuntime

/-- A JSON value. A number is an integer, as the integer types write it, or a float, as
`f32` writes it. -/
inductive Json
  | null
  | bool (b : Bool)
  | num (n : Int)
  | float (x : Float)
  | str (s : String)
  | arr (items : List Json)
  | obj (entries : List (String × Json))

/-- Why a derived `Deserialize` rejects a value, with the type or the field it names. -/
inductive DecodeError
  | invalidType (expected : String)
  | invalidValue (expected : String)
  | missingField (field : String)
  | duplicateField (field : String)
  deriving DecidableEq

/-- A `Deserialize` of `α`. -/
abbrev Decoder (α : Type) := Json → Except DecodeError α

namespace Json

variable {α β : Type}

/-- `String`. -/
def decodeString : Decoder String
  | .str s => .ok s
  | _ => .error (.invalidType "a string")

/-- An unsigned integer type with `size` values, named `ty`. -/
def decodeUnsigned (ty : String) (size : Nat) : Decoder Nat
  | .num n => if 0 ≤ n ∧ n < size then .ok n.toNat else .error (.invalidValue ty)
  | _ => .error (.invalidType ty)

/-- `bool`. -/
def decodeBool : Decoder Bool
  | .bool b => .ok b
  | _ => .error (.invalidType "a boolean")

/-- `f32`, from any number. -/
def decodeF32 : Decoder Float
  | .num n => .ok (Float.ofInt n)
  | .float x => .ok x
  | _ => .error (.invalidType "f32")

/-- `Option<T>`: `null` is `None`. -/
def decodeOption (dec : Decoder α) : Decoder (Option α)
  | .null => .ok none
  | j => (dec j).map some

/-- `Vec<T>`: an array, element by element. -/
def decodeVec (dec : Decoder α) : Decoder (List α)
  | .arr items => items.mapM dec
  | _ => .error (.invalidType "a sequence")

/-- `HashMap<String, String>`: an object of strings, inserted in the order of its entries. -/
def decodeStringMap : Decoder (HashMap String String)
  | .obj entries =>
    entries.foldlM (fun m e => do pure (m.insert e.1 (← decodeString e.2))) .empty
  | _ => .error (.invalidType "a map")

/-- The entries of the object a struct named `ty` is read from. -/
def objectEntries (ty : String) : Decoder (List (String × Json))
  | .obj entries => .ok entries
  | _ => .error (.invalidType ty)

/-- One field of a derived `Deserialize`: its single entry read by `dec`, `missing` when it
has none, and an error when it has two or more. -/
def decodeField (dec : Decoder α) (missing : Except DecodeError α)
    (entries : List (String × Json)) (key : String) : Except DecodeError α :=
  match entries.filter (·.1 == key) with
  | [] => missing
  | [e] => dec e.2
  | _ => .error (.duplicateField key)

/-- A field with no default: an error names it when it is missing. -/
def required (dec : Decoder α) (entries : List (String × Json)) (key : String) :
    Except DecodeError α :=
  decodeField dec (.error (.missingField key)) entries key

/-- A field with a default (`#[serde(default)]`, or `None` for an `Option`). -/
def withDefault (dec : Decoder α) (default : α) (entries : List (String × Json))
    (key : String) : Except DecodeError α :=
  decodeField dec (pure default) entries key

/-- The `Serialize` of an `Option`: `None` is `null`. -/
def ofOption (enc : α → Json) : Option α → Json
  | some a => enc a
  | none => .null

/-- The `Serialize` of a `HashMap<String, String>` whose iteration yields `entries`. -/
def ofStringMap (entries : List (String × String)) : Json :=
  .obj (entries.map fun e => (e.1, .str e.2))

/-! The reading of each kind of value, stated with `pure` so that a decoder's `do` block
reduces by `pure_bind`. -/

/-- A string reads as itself. -/
@[simp] theorem decodeString_str (s : String) : decodeString (.str s) = pure s := rfl

/-- A number in range reads as itself. -/
theorem decodeUnsigned_num {ty : String} {size n : Nat} (h : n < size) :
    decodeUnsigned ty size (.num n) = pure n := by
  simp only [decodeUnsigned, if_pos (show 0 ≤ (n : Int) ∧ (n : Int) < size by omega)]
  rfl

/-- `null` reads as `None`. -/
@[simp] theorem decodeOption_null (dec : Decoder α) : decodeOption dec .null = pure none := rfl

/-- An object reads as its entries. -/
@[simp] theorem objectEntries_obj (ty : String) (entries : List (String × Json)) :
    objectEntries ty (.obj entries) = pure entries := rfl

/-- A `Vec` is read element by element: where each element reads back as `f x`, the array
reads back as the list of them. -/
theorem decodeVec_map (dec : Decoder β) (enc : α → Json) (f : α → β) (xs : List α)
    (h : ∀ x ∈ xs, dec (enc x) = pure (f x)) :
    decodeVec dec (.arr (xs.map enc)) = pure (xs.map f) := by
  induction xs with
  | nil => rfl
  | cons x xs ih =>
    simp only [List.forall_mem_cons] at h
    have ih' : (xs.map enc).mapM dec = pure (xs.map f) := ih h.2
    simp only [decodeVec, List.map_cons, List.mapM_cons, h.1, ih', pure_bind]

/-- An array of strings reads as the list of them. -/
theorem decodeVec_str (xs : List String) :
    decodeVec decodeString (.arr (xs.map .str)) = pure xs := by
  simpa using decodeVec_map decodeString Json.str id xs fun _ _ => rfl

end Json

/-! ### Maps of strings -/

/-- `entries` is an iteration of the map `m`: each key once, with its value. -/
def HashMap.Enumerates (m : HashMap String String) (entries : List (String × String)) :
    Prop :=
  (entries.map Prod.fst).Nodup ∧ ∀ k, entries.lookup k = m.get k

/-- Inserting entries with distinct keys: a key of the entries has its value, any other
key keeps what the map had. -/
theorem get_foldl_insert {entries : List (String × String)}
    (h : (entries.map Prod.fst).Nodup) (m : HashMap String String) (k : String) :
    (entries.foldl (fun m e => m.insert e.1 e.2) m).get k =
      if k ∈ entries.map Prod.fst then entries.lookup k else m.get k := by
  induction entries generalizing m with
  | nil => simp
  | cons e entries ih =>
    obtain ⟨k', v⟩ := e
    simp only [List.map_cons, List.nodup_cons] at h
    simp only [List.foldl_cons, ih h.2, List.map_cons, List.mem_cons, List.lookup_cons,
      HashMap.get_insert]
    by_cases hk : k = k'
    · subst hk; simp [h.1]
    · simp only [beq_eq_false_iff_ne.2 hk, hk, false_or, ↓reduceIte]

namespace Json

/-- A map of strings reads back as the map its entries build, inserted in order. -/
theorem decodeStringMap_ofStringMap (entries : List (String × String)) :
    decodeStringMap (ofStringMap entries) =
      pure (entries.foldl (fun m e => m.insert e.1 e.2) .empty) := by
  suffices ∀ m : HashMap String String,
      (entries.map fun e => (e.1, Json.str e.2)).foldlM
        (fun m e => do pure (m.insert e.1 (← decodeString e.2))) m =
      pure (entries.foldl (fun m e => m.insert e.1 e.2) m) from this _
  induction entries with
  | nil => intro m; rfl
  | cons e entries ih => intro m; exact ih _

/-- **A map is read back as it was written**, in whatever order its iteration took. -/
theorem decodeStringMap_of_enumerates {m : HashMap String String}
    {entries : List (String × String)} (h : m.Enumerates entries) :
    decodeStringMap (ofStringMap entries) = pure m := by
  rw [decodeStringMap_ofStringMap]
  refine congrArg pure (HashMap.ext (funext fun k => ?_))
  rw [get_foldl_insert h.1, HashMap.get_empty, ← h.2 k]
  split_ifs with hk
  · rfl
  · refine (List.lookup_eq_none_iff.2 fun p hp => ?_).symm
    exact bne_iff_ne.2 fun he => hk (he ▸ List.mem_map_of_mem _ hp)

end Json

end YoukiRuntime
