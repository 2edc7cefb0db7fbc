import Mathlib.Data.List.Infix

/-!
# Unix paths

The runtime builds every on-disk location with `PathBuf::join`. On Unix, joining an
absolute path *replaces* the base, and joining a relative one appends it after a `/`
(none is added when the base is empty or already ends in one). `joinPath` is that rule.

To say where a path points we resolve it lexically, as `os.path.normpath` does: split at
`/`, drop empty parts and `.`, let `..` cancel the part before it (at the root it stays at
the root; at the head of a relative path it is kept). `normalize` returns whether the
path is absolute together with the resolved parts, and `IsStrictDescendant p base` says
that `p` resolves to a location strictly below `base`.

## Main results

* `normalize_joinPath_plain`: joining a plain part (no `/`, not empty, not `.` or `..`)
  adds exactly that part to the resolved path.
* `normalize_append_plain`: so does appending `/` and a plain part to any non-empty path.
-/

namespace YoukiRuntime

/-- Consing a character onto the first part of a split path. -/
def consHead (c : Char) : List (List Char) → List (List Char)
  | [] => [[c]]
  | w :: ws => (c :: w) :: ws

/-- The parts of a path between its `/` separators (`"a//b/"` gives `a`, ``, `b`, ``). -/
def splitSlash : List Char → List (List Char)
  | [] => [[]]
  | c :: cs => if c = '/' then [] :: splitSlash cs else consHead c (splitSlash cs)

/-- `Path::join` (`PathBuf::push`) on Unix. -/
def joinPath (base p : String) : String :=
  if p.data.head? = some '/' then p
  else if base.data.getLast?.any (· != '/') then base ++ "/" ++ p
  else base ++ p

/-- A part that names a directory entry: no separator, not empty, not `.` or `..`. -/
def IsPlainPart (c : List Char) : Prop :=
  '/' ∉ c ∧ c ≠ [] ∧ c ≠ ['.'] ∧ c ≠ ['.', '.']

/-- Resolving one part onto the (reversed) parts resolved so far. -/
def pushPart (abs : Bool) (acc : List (List Char)) (c : List Char) : List (List Char) :=
  if c = [] ∨ c = ['.'] then acc
  else if c = ['.', '.'] then
    match acc with
    | [] => if abs then [] else [c]
    | top :: rest => if top = ['.', '.'] then c :: acc else rest
  else c :: acc

/-- The parts of a path resolved one after the other, last part first. -/
def resolveParts (abs : Bool) (cs : List Char) : List (List Char) :=
  (splitSlash cs).foldl (pushPart abs) []

/-- The lexical resolution of a path: absolute or not, and its parts. -/
def normalize (p : String) : Bool × List (List Char) :=
  let abs := p.data.head? = some '/'
  (abs, (resolveParts abs p.data).reverse)

/-- `p` resolves to a location strictly below `base`. -/
def IsStrictDescendant (p base : String) : Prop :=
  (normalize p).1 = (normalize base).1 ∧ (normalize base).2 <+: (normalize p).2 ∧
    (normalize base).2 ≠ (normalize p).2

/-- Whether one path resolves strictly below another is decided by comparing resolutions. -/
instance (p base : String) : Decidable (IsStrictDescendant p base) :=
  inferInstanceAs (Decidable (_ ∧ _ ∧ _))

/-! ### Splitting -/

/-- Every path has at least one part, possibly empty. -/
theorem splitSlash_ne_nil (cs : List Char) : splitSlash cs ≠ [] := by
  induction cs with
  | nil => simp [splitSlash]
  | cons c cs ih =>
    unfold splitSlash
    split
    · simp
    · cases h : splitSlash cs <;> simp [consHead]

/-- `consHead` only touches the first part, so it commutes with appending parts. -/
theorem consHead_append {c : Char} {xs : List (List Char)} (hx : xs ≠ [])
    (ys : List (List Char)) :
    consHead c (xs ++ ys) = consHead c xs ++ ys := by
  cases xs with
  | nil => exact absurd rfl hx
  | cons x xs => rfl

/-- Splitting at a separator splits the two sides independently. -/
theorem splitSlash_append_slash (a b : List Char) :
    splitSlash (a ++ '/' :: b) = splitSlash a ++ splitSlash b := by
  induction a with
  | nil => simp [splitSlash]
  | cons c a ih =>
    rw [List.cons_append, splitSlash, splitSlash, ih]
    split
    · rfl
    · exact consHead_append (splitSlash_ne_nil a) _

/-- A text without a separator is a single part. -/
theorem splitSlash_of_slash_not_mem {a : List Char} (h : '/' ∉ a) : splitSlash a = [a] := by
  induction a with
  | nil => rfl
  | cons c a ih =>
    simp only [List.mem_cons, not_or] at h
    simp [splitSlash, Ne.symm h.1, ih h.2, consHead]

/-! ### Joining a plain part -/

/-- A plain part is pushed as it is, whatever was resolved before it. -/
theorem pushPart_plain {abs : Bool} (acc : List (List Char)) {c : List Char}
    (hc : IsPlainPart c) : pushPart abs acc c = c :: acc := by
  obtain ⟨-, h0, h1, h2⟩ := hc
  simp [pushPart, h0, h1, h2]

/-- The last part of a path ending in `/` is empty, and resolution drops it. -/
theorem resolveParts_append_slash (abs : Bool) (a : List Char) :
    resolveParts abs (a ++ ['/']) = resolveParts abs a := by
  simp [resolveParts, splitSlash_append_slash, splitSlash, pushPart]

/-- Appending `/` and a plain part puts that part on top of the resolved parts. -/
theorem resolveParts_append_plain (abs : Bool) (a : List Char) {c : List Char}
    (hc : IsPlainPart c) : resolveParts abs (a ++ '/' :: c) = c :: resolveParts abs a := by
  simp [resolveParts, splitSlash_append_slash, splitSlash_of_slash_not_mem hc.1,
    pushPart_plain _ hc]

/-- Appending `/` and a plain part to a non-empty path adds exactly that part. -/
theorem normalize_append_plain {a : String} (ha : a.data ≠ []) {c : String}
    (hc : IsPlainPart c.data) :
    normalize (a ++ "/" ++ c) = ((normalize a).1, (normalize a).2 ++ [c.data]) := by
  have hdata : (a ++ "/" ++ c).data = a.data ++ '/' :: c.data := by simp
  simp only [normalize, hdata, List.head?_append_of_ne_nil _ ha,
    resolveParts_append_plain _ _ hc, List.reverse_cons]

/-- **Joining a plain part** adds exactly that part, whatever the base looks like. -/
theorem normalize_joinPath_plain (base : String) {c : String} (hc : IsPlainPart c.data) :
    normalize (joinPath base c) = ((normalize base).1, (normalize base).2 ++ [c.data]) := by
  obtain ⟨bs⟩ := base
  obtain ⟨cs⟩ := c
  have hhead : cs.head? ≠ some '/' := fun h => hc.1 (List.mem_of_mem_head? h)
  simp only [joinPath, if_neg hhead]
  split
  · rename_i hlast
    exact normalize_append_plain (by rintro rfl; simp at hlast) hc
  · rename_i hlast
    rcases List.eq_nil_or_concat bs with rfl | ⟨a, x, rfl⟩
    · simp [normalize, hhead, resolveParts, splitSlash_of_slash_not_mem hc.1,
        pushPart_plain _ hc, splitSlash, pushPart, hc.2.1, hc.2.2.1]
    · simp only [List.concat_eq_append] at hlast ⊢
      have hx : x = '/' := by simpa using hlast
      subst hx
      have hdata : (⟨a ++ ['/']⟩ ++ ⟨cs⟩ : String).data = a ++ '/' :: cs := by simp
      have habs : (a ++ '/' :: cs).head? = (a ++ ['/']).head? := by cases a <;> rfl
      simp only [normalize, hdata, habs, resolveParts_append_plain _ _ hc,
        resolveParts_append_slash, List.reverse_cons]

end YoukiRuntime
