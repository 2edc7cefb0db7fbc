import Mathlib.Data.List.Basic
import Mathlib.Data.List.DropRight
import Mathlib.Data.List.Infix

/-!
# Rust's string functions

The functions of `core::str` that the runtime's text handling calls, on the characters of a
string, as the standard library implements them: `lines`, `split_whitespace`, `trim`,
`starts_with`, and `join` on a slice of strings.

`str::lines` is `split_inclusive('\n')` followed, on each piece, by `strip_suffix('\n')`
and, when that matched, `strip_suffix('\r')`. Everything about it here follows from two
equations for `splitInclusive`: a text cut at its first `'\n'`
(`splitInclusive_append_newline`) and a text with no `'\n'` (`splitInclusive_of_not_mem`).

## Main results

* `linesOf_joinLines`: the lines of lines joined with `"\n"`, which is where reading back a
  joined text can lose a line or a `'\r'`.
-/

namespace YoukiRuntime

/-- `str::starts_with` with a string pattern. -/
def strStartsWith (s pat : String) : Bool :=
  decide (pat.data <+: s.data)

/-! ### `str::lines` -/

/-- `str::split_inclusive('\n')`: the pieces of a text, each ending just after a `'\n'`, and
the rest after the last `'\n'` when it is not empty. -/
def splitInclusive : List Char → List (List Char)
  | [] => []
  | c :: cs =>
    if c = '\n' then ['\n'] :: splitInclusive cs
    else match splitInclusive cs with
      | [] => [[c]]
      | p :: ps => (c :: p) :: ps

/-- `strip_suffix('\r')`, keeping the text when it does not match. -/
def stripCr (l : List Char) : List Char :=
  if l.getLast? = some '\r' then l.dropLast else l

/-- What `str::lines` makes of one piece: `strip_suffix('\n')`, then `strip_suffix('\r')`
when the first one matched. -/
def stripLineEnding (p : List Char) : List Char :=
  if p.getLast? = some '\n' then stripCr p.dropLast else p

/-- `str::lines`, on characters. -/
def linesOf (s : List Char) : List (List Char) :=
  (splitInclusive s).map stripLineEnding

/-- `str::lines`. -/
def strLines (s : String) : List String :=
  (linesOf s.data).map String.mk

/-- A line ended by `'\n'` is the first piece of whatever follows it. -/
theorem splitInclusive_append_newline {l : List Char} (hl : '\n' ∉ l) (rest : List Char) :
    splitInclusive (l ++ '\n' :: rest) = (l ++ ['\n']) :: splitInclusive rest := by
  induction l with
  | nil => simp [splitInclusive]
  | cons c l ih =>
    have hc : c ≠ '\n' := fun h => hl (h ▸ List.mem_cons_self _ _)
    simp only [List.mem_cons, not_or] at hl
    simp [splitInclusive, hc, ih hl.2]

/-- A text without `'\n'` is one piece, or none when it is empty. -/
theorem splitInclusive_of_not_mem {l : List Char} (hl : '\n' ∉ l) :
    splitInclusive l = if l = [] then [] else [l] := by
  induction l with
  | nil => rfl
  | cons c l ih =>
    have hc : c ≠ '\n' := fun h => hl (h ▸ List.mem_cons_self _ _)
    simp only [List.mem_cons, not_or] at hl
    by_cases hnil : l = [] <;> simp [splitInclusive, hc, ih hl.2, hnil]

/-- A piece ended by `'\n'` loses it, and then a final `'\r'`. -/
@[simp] theorem stripLineEnding_append_newline (l : List Char) :
    stripLineEnding (l ++ ['\n']) = stripCr l := by
  simp [stripLineEnding]

/-- A piece without `'\n'`, the last one of the text, is kept as it is. -/
theorem stripLineEnding_of_not_mem {l : List Char} (hl : '\n' ∉ l) : stripLineEnding l = l :=
  if_neg fun h => hl (List.mem_of_getLast?_eq_some h)

/-- Dropping a final `'\r'` adds no `'\n'`. -/
theorem not_mem_stripCr {l : List Char} (hl : '\n' ∉ l) : '\n' ∉ stripCr l := by
  unfold stripCr
  split_ifs
  · exact fun h => hl (List.dropLast_subset l h)
  · exact hl

/-- Every piece of `split_inclusive('\n')` is a line with no `'\n'`, ended by one or not. -/
theorem mem_splitInclusive {s p : List Char} (hp : p ∈ splitInclusive s) :
    '\n' ∉ p ∨ ∃ l, '\n' ∉ l ∧ p = l ++ ['\n'] := by
  induction s generalizing p with
  | nil => simp [splitInclusive] at hp
  | cons c cs ih =>
    unfold splitInclusive at hp
    split_ifs at hp with hc
    · rcases List.mem_cons.1 hp with rfl | hp
      · exact .inr ⟨[], by simp, rfl⟩
      · exact ih hp
    · split at hp
      · obtain rfl := List.mem_singleton.1 hp
        exact .inl (by simpa using Ne.symm hc)
      · rename_i q qs hq
        rcases List.mem_cons.1 hp with rfl | hp
        · rcases ih (hq ▸ List.mem_cons_self q qs) with h | ⟨l, hl, rfl⟩
          · exact .inl (by simp [h, Ne.symm hc])
          · exact .inr ⟨c :: l, by simp [hl, Ne.symm hc], rfl⟩
        · exact ih (hq ▸ List.mem_cons_of_mem q hp)

/-- No line contains a `'\n'`. -/
theorem not_mem_of_mem_linesOf {s l : List Char} (hl : l ∈ linesOf s) : '\n' ∉ l := by
  obtain ⟨p, hp, rfl⟩ := List.mem_map.1 hl
  rcases mem_splitInclusive hp with h | ⟨l', hl', rfl⟩
  · rwa [stripLineEnding_of_not_mem h]
  · rw [stripLineEnding_append_newline]
    exact not_mem_stripCr hl'

/-! ### `join("\n")` -/

/-- The characters of `String.intercalate`'s loop: the accumulator, then each part after the
separator. -/
theorem data_intercalate_go (acc s : String) (l : List String) :
    (String.intercalate.go acc s l).data = acc.data ++ (l.map (s.data ++ ·.data)).flatten := by
  induction l generalizing acc with
  | nil => simp [String.intercalate.go]
  | cons a l ih => simp [String.intercalate.go, ih]

/-- Joining two or more parts puts the first one and the separator before the join of the
rest. -/
theorem data_intercalate_cons_cons (s a b : String) (l : List String) :
    (String.intercalate s (a :: b :: l)).data =
      a.data ++ s.data ++ (String.intercalate s (b :: l)).data := by
  simp [String.intercalate, data_intercalate_go]

/-- The lines of lines with no `'\n'` joined with `"\n"`: each line but the last loses a
final `'\r'`, and the last one is lost when it is empty. -/
theorem linesOf_joinLines {ys : List String} (hys : ∀ y ∈ ys, '\n' ∉ y.data)
    (hne : ys ≠ []) :
    linesOf (String.intercalate "\n" ys).data =
      (ys.dropLast.map (stripCr ·.data)) ++
        if (ys.getLast hne).data = [] then [] else [(ys.getLast hne).data] := by
  induction ys with
  | nil => exact absurd rfl hne
  | cons y ys ih =>
    simp only [List.mem_cons, forall_eq_or_imp] at hys
    cases ys with
    | nil =>
      by_cases hy : y.data = [] <;>
        simp [String.intercalate, String.intercalate.go, linesOf, splitInclusive_of_not_mem hys.1,
          hy, stripLineEnding_of_not_mem hys.1, splitInclusive]
    | cons y' ys =>
      have := ih hys.2 (List.cons_ne_nil _ _)
      rw [data_intercalate_cons_cons, List.append_assoc, linesOf] at *
      rw [show ("\n" : String).data = ['\n'] from rfl, List.singleton_append,
        splitInclusive_append_newline hys.1, List.map_cons, stripLineEnding_append_newline,
        this]
      simp

/-- `stripCr` leaves a line as it is exactly when it does not end in `'\r'`. -/
theorem stripCr_eq_self_iff (l : List Char) : stripCr l = l ↔ l.getLast? ≠ some '\r' := by
  unfold stripCr
  split_ifs with h
  · have hl : 0 < l.length := List.length_pos.2 (by rintro rfl; simp at h)
    simp only [h, ne_eq, not_true_eq_false, iff_false]
    exact fun heq => absurd (congrArg List.length heq) (by rw [List.length_dropLast]; omega)
  · simp [h]

/-- Mapping leaves a list as it is exactly when it fixes each element. -/
theorem map_eq_self_iff {α : Type} {f : α → α} {l : List α} :
    l.map f = l ↔ ∀ x ∈ l, f x = x := by
  simpa using @List.map_inj_left _ _ l f id

/-- **Reading back lines joined with `"\n"`** gives them back exactly when there are none, or
the last one is not empty and no other one ends in `'\r'`. -/
theorem strLines_intercalate_eq_iff {ys : List String} (hys : ∀ y ∈ ys, '\n' ∉ y.data) :
    strLines (String.intercalate "\n" ys) = ys ↔
      ys = [] ∨
        (ys.getLast? ≠ some "" ∧ ∀ y ∈ ys.dropLast, y.data.getLast? ≠ some '\r') := by
  rcases eq_or_ne ys [] with rfl | hne
  · simp [strLines, linesOf, String.intercalate, splitInclusive]
  rw [strLines, linesOf_joinLines hys hne, List.getLast?_eq_getLast ys hne]
  simp only [hne, false_or, ne_eq, Option.some.injEq]
  by_cases hl : (ys.getLast hne).data = []
  · -- the last line is lost, so one line is missing
    have hlast : ys.getLast hne = "" := String.ext hl
    have hlen : 0 < ys.length := List.length_pos.2 hne
    simp only [hl, if_true, List.append_nil, hlast, not_true_eq_false, false_and, iff_false]
    exact fun heq => absurd (congrArg List.length heq)
      (by simp only [List.length_map, List.length_dropLast]; omega)
  · have hlast : ys.getLast hne ≠ "" := fun h => hl (h ▸ rfl)
    have split (A : List String) : A = ys ↔ A = ys.dropLast ++ [ys.getLast hne] := by
      rw [List.dropLast_append_getLast hne]
    rw [if_neg hl, List.map_append, List.map_map, split, List.map_singleton,
      List.append_left_inj, map_eq_self_iff]
    simp only [Function.comp_def, hlast, not_false_eq_true, true_and]
    refine forall_congr' fun y => imp_congr_right fun _ => ?_
    rw [← ne_eq, ← stripCr_eq_self_iff, String.ext_iff]

end YoukiRuntime
