import Mathlib.Data.List.DropRight
import FlexRic.Semantics.Buffer
import FlexRic.Semantics.Outcome

/-!
# Strings of C

A string is what comes before the first NUL of an array of bytes. An array without a NUL holds no
string: the functions that look for its end read past the end of the array.
-/

namespace FlexRic

namespace CString

open Outcome

/-- The bytes of a text in a program. -/
def ascii (s : String) : List UInt8 := s.toList.map fun c => UInt8.ofNat c.toNat

/-- `isspace` in the locale "C". -/
def isspace (c : UInt8) : Bool := c = 32 || (9 ≤ c && c ≤ 13)

/-- The string at the beginning of an array. -/
def text (mem : List UInt8) : List UInt8 := mem.takeWhile (· ≠ 0)

/-- `strlen` of the string at a place of an array. -/
def strlen (mem : List UInt8) (s : ℕ) : Outcome ℕ :=
  if 0 ∈ mem.drop s then return (text (mem.drop s)).length else faults .pastEnd

/-- `strstr`: the place of the first occurrence in a string. -/
def strstr (needle : List UInt8) : List UInt8 → Option ℕ
  | [] => if needle = [] then some 0 else none
  | c :: cs => if needle <+: c :: cs then some 0 else (strstr needle cs).map (· + 1)

/-- `strdup` of the string at the beginning of an array. -/
def strdup (mem : List UInt8) : Outcome (List UInt8) := do
  let len ← strlen mem 0
  return mem.take len ++ [0]

/-! ## Strings in an array -/

section Text

variable {pre s post : List UInt8}

theorem text_append (hs : 0 ∉ s) (post : List UInt8) : text (s ++ 0 :: post) = s := by
  have hall : ∀ c ∈ s, decide (c ≠ 0) = true := by
    intro c hc
    exact decide_eq_true fun h => hs (h ▸ hc)
  rw [text, List.takeWhile_append_of_pos hall, List.takeWhile_cons_of_neg (by decide),
    List.append_nil]

theorem zero_notMem_text (mem : List UInt8) : 0 ∉ text mem := by
  intro h
  have hne : decide ((0 : UInt8) ≠ 0) = true :=
    List.mem_takeWhile_imp (p := fun c : UInt8 => decide (c ≠ 0)) h
  exact absurd hne (by decide)

/-- The string at a place of an array, and its end. -/
theorem strlen_append (hs : 0 ∉ s) :
    strlen (pre ++ (s ++ 0 :: post)) pre.length = returns s.length := by
  rw [strlen, List.drop_left, if_pos (List.mem_append_right s List.mem_cons_self),
    text_append hs]
  rfl

theorem strlen_of_notMem {mem : List UInt8} (h : 0 ∉ mem) : strlen mem 0 = faults .pastEnd := by
  rw [strlen, List.drop_zero, if_neg h]

theorem strdup_append (hs : 0 ∉ s) : strdup (s ++ 0 :: post) = returns (s ++ [0]) := by
  have hlen : strlen ([] ++ (s ++ 0 :: post)) 0 = returns s.length := strlen_append hs
  rw [List.nil_append] at hlen
  rw [strdup, hlen, returns_bind, List.take_left]
  rfl

theorem strdup_of_notMem {mem : List UInt8} (h : 0 ∉ mem) : strdup mem = faults .pastEnd := by
  rw [strdup, strlen_of_notMem h]
  rfl

/-- An array that ends with a NUL holds a string. -/
theorem exists_eq_text_append (line : List UInt8) :
    ∃ rest, line ++ [0] = text line ++ 0 :: rest := by
  induction line with
  | nil => exact ⟨[], rfl⟩
  | cons c cs ih =>
    by_cases hc : c = 0
    · exact ⟨cs ++ [0], by simp [hc, text]⟩
    · obtain ⟨rest, hrest⟩ := ih
      refine ⟨rest, ?_⟩
      rw [List.cons_append, hrest]
      simp [text, hc]

theorem text_concat (line : List UInt8) : text (line ++ [0]) = text line := by
  obtain ⟨rest, hrest⟩ := exists_eq_text_append line
  rw [hrest, text_append (zero_notMem_text line)]

theorem text_of_notMem {line : List UInt8} (h : 0 ∉ line) : text line = line :=
  (text_concat line).symm.trans (text_append h [])

/-- What is behind a string begins with a NUL. -/
theorem exists_text_append (line : List UInt8) :
    ∃ post, line = text line ++ post ∧ (post = [] ∨ post.head? = some 0) := by
  induction line with
  | nil => exact ⟨[], rfl, Or.inl rfl⟩
  | cons c cs ih =>
    by_cases hc : c = 0
    · exact ⟨c :: cs, by simp [hc, text], Or.inr (congrArg some hc)⟩
    · obtain ⟨post, hcs, hpost⟩ := ih
      have htext : text (c :: cs) = c :: text cs := by simp [text, hc]
      refine ⟨post, ?_, hpost⟩
      rw [htext, List.cons_append, ← hcs]

/-- What is found is there. -/
theorem eq_append_of_strstr {needle : List UInt8} {i : ℕ} (h : strstr needle s = some i) :
    ∃ pre post, s = pre ++ (needle ++ post) ∧ pre.length = i := by
  induction s generalizing i with
  | nil =>
    rw [strstr] at h
    split at h
    · next hnil =>
      cases h
      exact ⟨[], [], by rw [hnil]; rfl, rfl⟩
    · cases h
  | cons c cs ih =>
    rw [strstr] at h
    split at h
    · next hprefix =>
      cases h
      obtain ⟨post, hpost⟩ := hprefix
      exact ⟨[], post, hpost.symm, rfl⟩
    · obtain ⟨j, hj, rfl⟩ := Option.map_eq_some_iff.1 h
      obtain ⟨pre, post, rfl, rfl⟩ := ih hj
      exact ⟨c :: pre, post, rfl, rfl⟩

end Text

end CString

end FlexRic
