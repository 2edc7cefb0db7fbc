import Mathlib.Data.List.Basic

/-!
# Identifiers and their textual form

`create_container` names a container `format!("{}-{}", config.name, Uuid::new_v4())`, and
`bundle_path` turns a node identifier, itself a `Uuid`, into a directory name with
`node_id.to_string()`. Both go through the `Display` form of `uuid::Uuid`: the hyphenated
lower-case hex rendering of its sixteen bytes, in groups of 4, 2, 2, 2 and 6 bytes.

Everything the lifecycle engine relies on about identifiers comes from three facts about
that rendering, proved here once:

* `Uuid.length_toString`: it is always 36 characters long;
* `Uuid.toString_injective`: distinct UUIDs render differently;
* `Uuid.slash_not_mem_toString`: it never contains a path separator.

From the first two, `formatContainerId_inj_uuid` shows that a container identifier
determines the UUID it was generated with, **whatever the container name is**: the name
may contain `-` or text that looks like a UUID.

The command-line client reads identifiers back with `Uuid::parse_str`, which accepts the
simple (32 hex digits), hyphenated, braced and `urn:uuid:` forms, in either case.
`Uuid.parseStr_toString` shows that it reads the rendering back to the same UUID.
-/

namespace YoukiRuntime

/-- A `uuid::Uuid`: its sixteen bytes, most significant first. -/
structure Uuid where
  bytes : List UInt8
  length_bytes : bytes.length = 16
  deriving DecidableEq

/-- The two lower-case hex digits of a byte. -/
def byteHex (b : UInt8) : List Char :=
  [Nat.digitChar (b.toNat / 16), Nat.digitChar (b.toNat % 16)]

/-- The lower-case hex digits of a byte string, two per byte. -/
def hexBytes (bs : List UInt8) : List Char :=
  bs.flatMap byteHex

/-- `Uuid`'s `Display`: the hyphenated form `xxxxxxxx-xxxx-xxxx-xxxx-xxxxxxxxxxxx`. -/
def Uuid.toString (u : Uuid) : String :=
  ⟨hexBytes (u.bytes.take 4) ++ '-' :: hexBytes ((u.bytes.drop 4).take 2) ++
    '-' :: hexBytes ((u.bytes.drop 6).take 2) ++ '-' :: hexBytes ((u.bytes.drop 8).take 2) ++
    '-' :: hexBytes (u.bytes.drop 10)⟩

/-- A node identifier is a `Uuid`. -/
abbrev NodeId := Uuid

/-- A container identifier is a `String`. -/
abbrev ContainerId := String

/-- The identifier `create_container` gives a container: `format!("{}-{}", name, uuid)`. -/
def formatContainerId (name : String) (u : Uuid) : ContainerId :=
  name ++ "-" ++ u.toString

/-- A UUID whose last byte is `b`. -/
def sampleUuid (b : UInt8) : Uuid := ⟨List.replicate 15 0 ++ [b], by simp⟩

/-! ### Hex digits -/

/-- The sixteen hex digits `Nat.digitChar` writes are pairwise distinct. -/
theorem digitChar_inj : ∀ m < 16, ∀ n < 16, Nat.digitChar m = Nat.digitChar n → m = n := by
  decide

/-- No hex digit is a dash or a slash. -/
theorem digitChar_ne : ∀ m < 16, Nat.digitChar m ≠ '-' ∧ Nat.digitChar m ≠ '/' := by
  decide

/-- No bytes render to no digits. -/
@[simp] theorem hexBytes_nil : hexBytes [] = [] := rfl

/-- A byte's two digits come before the digits of the bytes after it. -/
@[simp] theorem hexBytes_cons (b : UInt8) (bs : List UInt8) :
    hexBytes (b :: bs) = byteHex b ++ hexBytes bs := rfl

/-- Rendering is a monoid map: the digits of a concatenation are the concatenated digits. -/
@[simp] theorem hexBytes_append (as bs : List UInt8) :
    hexBytes (as ++ bs) = hexBytes as ++ hexBytes bs :=
  List.flatMap_append _ _ _

/-- Every byte renders to exactly two digits. -/
@[simp] theorem length_hexBytes (bs : List UInt8) : (hexBytes bs).length = 2 * bs.length := by
  induction bs with
  | nil => rfl
  | cons b bs ih => simp [byteHex, ih]; omega

/-- A byte is determined by its two hex digits. -/
theorem byteHex_inj {a b : UInt8} (h : byteHex a = byteHex b) : a = b := by
  simp only [byteHex, List.cons.injEq, and_true] at h
  have hd := digitChar_inj _ (Nat.div_lt_of_lt_mul (UInt8.toNat_lt_size a)) _
    (Nat.div_lt_of_lt_mul (UInt8.toNat_lt_size b)) h.1
  have hm := digitChar_inj _ (Nat.mod_lt _ (by decide)) _ (Nat.mod_lt _ (by decide)) h.2
  exact UInt8.toNat.inj (by omega)

/-- Different byte lists render to different digit lists. -/
theorem hexBytes_injective : Function.Injective hexBytes := by
  intro as
  induction as with
  | nil => intro bs h; cases bs <;> simp_all [byteHex]
  | cons a as ih =>
    intro bs h
    cases bs with
    | nil => simp [byteHex] at h
    | cons b bs =>
      obtain ⟨hab, hs⟩ := List.append_inj (by simpa using h) (by simp [byteHex])
      rw [byteHex_inj hab, ih hs]

/-- The rendered digits contain neither a dash nor a slash. -/
theorem mem_hexBytes {c : Char} {bs : List UInt8} (h : c ∈ hexBytes bs) :
    c ≠ '-' ∧ c ≠ '/' := by
  simp only [hexBytes, List.mem_flatMap, byteHex, List.mem_cons, List.not_mem_nil,
    or_false] at h
  obtain ⟨b, -, rfl | rfl⟩ := h
  · exact digitChar_ne _ (Nat.div_lt_of_lt_mul (UInt8.toNat_lt_size b))
  · exact digitChar_ne _ (Nat.mod_lt _ (by decide))

/-! ### The rendering -/

/-- Every rendering is 36 characters long. -/
@[simp] theorem Uuid.length_toString (u : Uuid) : u.toString.length = 36 := by
  have h := u.length_bytes
  simp only [Uuid.toString, String.length, List.length_append, List.length_cons,
    length_hexBytes, List.length_take, List.length_drop]
  omega

/-- `Uuid.length_toString` on the character list. -/
theorem Uuid.length_toString_data (u : Uuid) : u.toString.data.length = 36 :=
  u.length_toString

/-- Dropping the dashes from the rendering leaves the hex digits of every byte. -/
theorem Uuid.filter_toString (u : Uuid) :
    u.toString.data.filter (· != '-') = hexBytes u.bytes := by
  have hf : ∀ bs, (hexBytes bs).filter (· != '-') = hexBytes bs := fun bs =>
    List.filter_eq_self.2 fun c hc => by simpa using (mem_hexBytes hc).1
  conv_rhs => rw [← List.take_append_drop 4 u.bytes, ← List.take_append_drop 2 (u.bytes.drop 4),
    ← List.take_append_drop 2 ((u.bytes.drop 4).drop 2),
    ← List.take_append_drop 2 (((u.bytes.drop 4).drop 2).drop 2)]
  simp [Uuid.toString, List.filter_append, hf, List.drop_drop]

/-- Different UUIDs render differently. -/
theorem Uuid.toString_injective : Function.Injective Uuid.toString := by
  intro u v h
  have hb : u.bytes = v.bytes :=
    hexBytes_injective (by rw [← u.filter_toString, ← v.filter_toString, h])
  cases u; cases v; cases hb; rfl

/-- A rendering contains no slash, so it is a single path component. -/
theorem Uuid.slash_not_mem_toString (u : Uuid) : '/' ∉ u.toString.data := by
  intro h
  have hf : '/' ∈ u.toString.data.filter (· != '-') := List.mem_filter.2 ⟨h, by decide⟩
  rw [u.filter_toString] at hf
  exact (mem_hexBytes hf).2 rfl

/-! ### Parsing: `Uuid::parse_str`

`uuid`'s parser works on the bytes of the text. It dispatches on the length: 32 bytes are
the simple form, 36 the hyphenated form, 38 the braced form `{…}` and 45 the URN form
`urn:uuid:…`; the last two hold a hyphenated UUID inside. Each form reads every one of its
bytes, and a non-ASCII byte is neither a hex digit nor one of `-{}urn:`, so a text with a
non-ASCII character is rejected whatever its length. On ASCII texts bytes are characters,
which is why the model below reads characters. -/

/-- `HEX_TABLE`: the value of an ASCII hex digit of either case. -/
def hexValue (c : Char) : Option Nat :=
  if '0' ≤ c ∧ c ≤ '9' then some (c.toNat - '0'.toNat)
  else if 'a' ≤ c ∧ c ≤ 'f' then some (c.toNat - 'a'.toNat + 10)
  else if 'A' ≤ c ∧ c ≤ 'F' then some (c.toNat - 'A'.toNat + 10)
  else none

/-- The bytes of a string of hex digits, two digits a byte (`SHL4_TABLE[h1] | h2`). -/
def hexPairs : List Char → Option (List UInt8)
  | hi :: lo :: rest => do
    let h ← hexValue hi
    let l ← hexValue lo
    let bs ← hexPairs rest
    pure ((16 * h + l).toUInt8 :: bs)
  | [] => some []
  | [_] => none

/-- The UUID of 32 hex digits: `parse_simple`, and the decoding step of
`parse_hyphenated`. -/
def Uuid.ofHexDigits (digits : List Char) : Option Uuid :=
  match hexPairs digits with
  | some bs => if h : bs.length = 16 then some ⟨bs, h⟩ else none
  | none => none

/-- `parse_hyphenated`: dashes at 8, 13, 18 and 23, and four hex digits at each of the
`positions` `[0, 4, 9, 14, 19, 24, 28, 32]`. -/
def Uuid.parseHyphenated (s : List Char) : Option Uuid :=
  if s.length = 36 ∧ s[8]? = some '-' ∧ s[13]? = some '-' ∧ s[18]? = some '-' ∧
      s[23]? = some '-' then
    Uuid.ofHexDigits ([0, 4, 9, 14, 19, 24, 28, 32].flatMap fun i => (s.drop i).take 4)
  else none

/-- `Uuid::parse_str` (`try_parse`), `none` for its `Err`, as the `uuid` releases up to 1.10
have it: the prefix `urn:uuid:` is matched in lower case only. Later releases also accept
`URN:UUID:`; the sources pin no version. -/
def Uuid.parseStr (s : String) : Option Uuid :=
  let cs := s.data
  if cs.length = 32 then Uuid.ofHexDigits cs
  else if cs.length = 36 then Uuid.parseHyphenated cs
  else if cs.length = 38 ∧ cs.head? = some '{' ∧ cs.getLast? = some '}' then
    Uuid.parseHyphenated (cs.drop 1).dropLast
  else if cs.length = 45 ∧ "urn:uuid:".data <+: cs then Uuid.parseHyphenated (cs.drop 9)
  else none

/-- `hexValue` reads back each digit `Nat.digitChar` writes. -/
theorem hexValue_digitChar : ∀ n < 16, hexValue (Nat.digitChar n) = some n := by
  decide

/-- Pairing the digits of a byte list gives the bytes back. -/
theorem hexPairs_hexBytes (bs : List UInt8) : hexPairs (hexBytes bs) = some bs := by
  induction bs with
  | nil => rfl
  | cons b bs ih =>
    have hb : b.toNat < 256 := UInt8.toNat_lt_size b
    rw [hexBytes_cons, byteHex, List.cons_append, List.cons_append, List.nil_append, hexPairs,
      hexValue_digitChar _ (show b.toNat / 16 < 16 by omega),
      hexValue_digitChar _ (show b.toNat % 16 < 16 by omega), ih]
    show some ((16 * (b.toNat / 16) + b.toNat % 16).toUInt8 :: bs) = some (b :: bs)
    rw [Nat.div_add_mod]
    exact congrArg (some <| · :: bs) (UInt8.toNat.inj (UInt8.toNat_ofNat_of_lt hb))

/-- The 32 digits of a UUID's bytes decode to that UUID. -/
theorem Uuid.ofHexDigits_hexBytes (u : Uuid) :
    Uuid.ofHexDigits (hexBytes u.bytes) = some u := by
  simp [Uuid.ofHexDigits, hexPairs_hexBytes, u.length_bytes]

/-- A list of length `2 * n` is its first `n` elements followed by the next `n`. -/
theorem take_append_take_drop {α : Type} {l : List α} {n : Nat} (h : l.length = 2 * n) :
    l.take n ++ (l.drop n).take n = l := by
  have hd : (l.drop n).take n = l.drop n := List.take_of_length_le (by simp [h]; omega)
  rw [hd, List.take_append_drop]

/-- Groups of 8, 4, 4, 4 and 12 characters joined by dashes are read as the hex digits of
the five groups: the `positions` cut the first and last group in two and three. -/
theorem parseHyphenated_groups {A B C D E : List Char} (hA : A.length = 8)
    (hB : B.length = 4) (hC : C.length = 4) (hD : D.length = 4) (hE : E.length = 12) :
    Uuid.parseHyphenated (A ++ '-' :: B ++ '-' :: C ++ '-' :: D ++ '-' :: E) =
      Uuid.ofHexDigits (A ++ B ++ C ++ D ++ E) := by
  rw [Uuid.parseHyphenated, if_pos (by simp (disch := omega) [List.getElem?_append_right,
    List.getElem?_cons_zero, hA, hB, hC, hD, hE])]
  congr 1
  simp (disch := omega) [List.drop_append_eq_append_drop, List.take_append_eq_append_take,
    hA, hB, hC, hD, hE, List.drop_of_length_le, List.take_of_length_le]
  have hE' : E.drop 8 = (E.drop 4).drop 4 := by rw [List.drop_drop]
  rw [← List.append_assoc, take_append_take_drop hA, hE', take_append_take_drop (by simp [hE]),
    List.take_append_drop]

/-- **`parse_str` reads `Display` back**: every UUID's rendering parses to that UUID. -/
theorem Uuid.parseStr_toString (u : Uuid) : Uuid.parseStr u.toString = some u := by
  have h := u.length_bytes
  rw [Uuid.parseStr]
  simp only [u.length_toString_data, Nat.reduceEqDiff, ↓reduceIte]
  dsimp only [Uuid.toString]
  rw [parseHyphenated_groups (by simp [h]) (by simp [h]) (by simp [h]) (by simp [h])
    (by simp [h]), ← hexBytes_append, ← hexBytes_append, ← hexBytes_append,
    ← hexBytes_append, ← List.take_add, ← List.take_add, ← List.take_add,
    List.take_append_drop, Uuid.ofHexDigits_hexBytes]

/-! ### Container identifiers -/

/-- A container identifier determines the UUID it was generated with, for all names. -/
theorem formatContainerId_inj_uuid {n n' : String} {u u' : Uuid}
    (h : formatContainerId n u = formatContainerId n' u') : u = u' := by
  have hd := congrArg String.data h
  simp only [formatContainerId, String.data_append] at hd
  exact Uuid.toString_injective
    (String.ext (List.append_inj' hd (u.length_toString.trans u'.length_toString.symm)).2)

/-- A container identifier has a slash only if its name has one. -/
theorem slash_not_mem_formatContainerId {n : String} (hn : '/' ∉ n.data) (u : Uuid) :
    '/' ∉ (formatContainerId n u).data := by
  simp only [formatContainerId, String.data_append, List.mem_append, not_or]
  exact ⟨⟨hn, by decide⟩, u.slash_not_mem_toString⟩

end YoukiRuntime
