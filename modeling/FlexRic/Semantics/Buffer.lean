import Mathlib.Data.List.Basic

/-!
# Arrays of a fixed length

An array is a list whose length does not change. Reading or writing past the end fails.
-/

namespace FlexRic

universe u

namespace Buffer

variable {α : Type u}

/-- `calloc`: whether there is memory is not for the program to say. -/
def calloc [Inhabited α] (mem : Bool) (n : ℕ) : Option (List α) :=
  if mem then some (List.replicate n default) else none

/-- Write one element. -/
def store (b : List α) (i : ℕ) (x : α) : Option (List α) :=
  if i < b.length then some (b.set i x) else none

/-- Replace as many elements as there are in `mid`, from the index `off` on. -/
def splice (b : List α) (off : ℕ) (mid : List α) : Option (List α) :=
  if off + mid.length ≤ b.length then some (b.take off ++ mid ++ b.drop (off + mid.length))
  else none

/-- `memcpy` of `len` elements. -/
def memcpy (dst : List α) (off : ℕ) (src : List α) (start len : ℕ) : Option (List α) :=
  if start + len ≤ src.length then splice dst off ((src.drop start).take len) else none

/-- `memset` of `len` elements to zero. -/
def memset [Inhabited α] (b : List α) (off len : ℕ) : Option (List α) :=
  splice b off (List.replicate len default)

/-- `memmove` of `len` elements within an array. -/
def memmove (b : List α) (off start len : ℕ) : Option (List α) := memcpy b off b start len

/-- `realloc`: what is in the new part is not for the program to say. -/
def realloc (b : List α) (fresh : ℕ → α) (n : ℕ) : List α :=
  b.take n ++ (List.range (n - b.length)).map fresh

variable {b dst src mid : List α} {i off start len : ℕ}

theorem calloc_true [Inhabited α] (n : ℕ) :
    calloc true n = some (List.replicate n (default : α)) := if_pos rfl

theorem store_of_lt (h : i < b.length) (x : α) : store b i x = some (b.set i x) := if_pos h

theorem splice_of_le (h : off + mid.length ≤ b.length) :
    splice b off mid = some (b.take off ++ mid ++ b.drop (off + mid.length)) := if_pos h

/-- The elements that are not replaced stay. -/
theorem getElem?_splice (h : off + mid.length ≤ b.length)
    (hi : i < off ∨ off + mid.length ≤ i) :
    (b.take off ++ mid ++ b.drop (off + mid.length))[i]? = b[i]? := by
  have hoff : (b.take off).length = off := List.length_take_of_le (by omega)
  rcases hi with hi | hi
  · rw [List.append_assoc, List.getElem?_append_left (by omega), List.getElem?_take_of_lt hi]
  · have hlen : (b.take off ++ mid).length = off + mid.length := by rw [List.length_append, hoff]
    rw [List.getElem?_append_right (by omega), hlen, List.getElem?_drop]
    congr 1
    omega

theorem length_splice (h : off + mid.length ≤ b.length) :
    (b.take off ++ mid ++ b.drop (off + mid.length)).length = b.length := by
  simp only [List.length_append, List.length_take, List.length_drop]
  omega

/-- What is before the replaced elements stays. -/
theorem take_splice (h : off + mid.length ≤ b.length) :
    (b.take off ++ mid ++ b.drop (off + mid.length)).take off = b.take off := by
  rw [List.append_assoc]
  exact List.take_left' (List.length_take_of_le (by omega))

/-- `memset` keeps the length and the other elements. -/
theorem memset_spec [Inhabited α] (h : off + len ≤ b.length) :
    ∃ b', memset b off len = some b' ∧ b'.length = b.length ∧
      ∀ i, i < off ∨ off + len ≤ i → b'[i]? = b[i]? := by
  have hmid : off + (List.replicate len (default : α)).length ≤ b.length := by
    rwa [List.length_replicate]
  refine ⟨_, splice_of_le hmid, length_splice hmid, fun i hi => getElem?_splice hmid ?_⟩
  rwa [List.length_replicate]

/-- `memcpy` to the start of an array. -/
theorem memcpy_zero (hsrc : start + len ≤ src.length) (hdst : len ≤ dst.length) :
    memcpy dst 0 src start len = some ((src.drop start).take len ++ dst.drop len) := by
  have hlen : ((src.drop start).take len).length = len := by
    rw [List.length_take, List.length_drop]
    omega
  rw [memcpy, if_pos hsrc, splice_of_le (by omega), hlen, List.take_zero, List.nil_append,
    Nat.zero_add]

/-- `memcpy` after the elements that were written before. -/
theorem memcpy_append {pre : List α} (hsrc : start + len ≤ src.length) (hdst : len ≤ dst.length)
    (hoff : off = pre.length) :
    memcpy (pre ++ dst) off src start len =
      some (pre ++ (src.drop start).take len ++ dst.drop len) := by
  have hlen : ((src.drop start).take len).length = len := by
    rw [List.length_take, List.length_drop]
    omega
  have hle : off + ((src.drop start).take len).length ≤ (pre ++ dst).length := by
    rw [List.length_append]
    omega
  rw [memcpy, if_pos hsrc, splice_of_le hle, hlen, hoff, List.take_left,
    List.drop_append]
  simp

theorem length_realloc (b : List α) (fresh : ℕ → α) (n : ℕ) : (realloc b fresh n).length = n := by
  rw [realloc, List.length_append, List.length_take, List.length_map, List.length_range]
  omega

/-- The old part stays. -/
theorem take_realloc {fresh : ℕ → α} {n : ℕ} (hb : len ≤ b.length) (hn : len ≤ n) :
    (realloc b fresh n).take len = b.take len := by
  have hlen : len ≤ (b.take n).length := by
    rw [List.length_take]
    omega
  rw [realloc, List.take_append_of_le_length hlen, List.take_take, Nat.min_eq_left hn]

/-! ## Arrays of elements of equal size -/

variable {xs : List (List α)} {n k : ℕ}

theorem length_flatten (h : ∀ x ∈ xs, x.length = n) : xs.flatten.length = xs.length * n := by
  induction xs with
  | nil => exact (Nat.zero_mul n).symm
  | cons x xs ih =>
    obtain ⟨hx, hxs⟩ := List.forall_mem_cons.1 h
    rw [List.flatten_cons, List.length_append, hx, ih hxs, List.length_cons, Nat.succ_mul,
      Nat.add_comm]

/-- The first elements. -/
theorem take_flatten (h : ∀ x ∈ xs, x.length = n) (hk : k ≤ xs.length) :
    xs.flatten.take (k * n) = (xs.take k).flatten := by
  have hlen : (xs.take k).flatten.length = k * n := by
    rw [length_flatten fun x hx => h x (List.mem_of_mem_take hx), List.length_take,
      Nat.min_eq_left hk]
  conv_lhs => rw [← List.take_append_drop k xs, List.flatten_append]
  exact List.take_left' hlen

/-- The elements from a place on. -/
theorem drop_flatten (h : ∀ x ∈ xs, x.length = n) (hk : k ≤ xs.length) :
    xs.flatten.drop (k * n) = (xs.drop k).flatten := by
  have hlen : (xs.take k).flatten.length = k * n := by
    rw [length_flatten fun x hx => h x (List.mem_of_mem_take hx), List.length_take,
      Nat.min_eq_left hk]
  conv_lhs => rw [← List.take_append_drop k xs, List.flatten_append]
  exact List.drop_left' hlen

/-- One element. -/
theorem slice_flatten (h : ∀ x ∈ xs, x.length = n) (hk : k < xs.length) :
    (xs.flatten.drop (k * n)).take n = xs[k] := by
  rw [drop_flatten h (Nat.le_of_lt hk), List.drop_eq_getElem_cons hk, List.flatten_cons]
  exact List.take_left' (h _ (List.getElem_mem hk))

end Buffer

end FlexRic
