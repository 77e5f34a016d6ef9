import Mathlib.Data.List.Forall2
import FlexRic.Semantics.Printf

/-!
# Rows of SQL

The part of SQL that says which values a row has: numbers, texts in quotes, and `INSERT` with a list
of them. A quote within a text is written twice, so a text says itself only without quotes.
-/

namespace FlexRic

namespace Sql

open CString Printf

/-! ## Literals -/

/-- The value of a literal. -/
inductive Literal : Type where
  | number (q : ℚ)
  | text (s : List UInt8)
  deriving DecidableEq

/-- The text behind an opening quote, and what comes behind the closing one. -/
def textLiteral : List UInt8 → Option (List UInt8 × List UInt8)
  | [] => none
  | [c] => if c = 39 then some ([], []) else none
  | c :: d :: s =>
    if c = 39 then
      if d = 39 then (textLiteral s).map fun (t, rest) => (39 :: t, rest) else some ([], d :: s)
    else (textLiteral (d :: s)).map fun (t, rest) => (c :: t, rest)

/-- What the literal of a number is made of. -/
def isNumeral (c : UInt8) : Bool := isDigit c || c = 45 || c = 46

/-- The literal at the beginning, and what comes behind it. -/
def literal : List UInt8 → Option (Literal × List UInt8)
  | [] => none
  | c :: s =>
    if c = 39 then (textLiteral s).map fun (t, rest) => (.text t, rest)
    else (numeral ((c :: s).takeWhile isNumeral)).map fun q =>
      (.number q, (c :: s).dropWhile isNumeral)

/-- A text as it is written between quotes. -/
def escape (t : List UInt8) : List UInt8 := t.flatMap fun c => if c = 39 then [39, 39] else [c]

/-! ## Rows -/

/-- The literals of a list up to the end of the statement. -/
inductive Row : List UInt8 → List Literal → Prop where
  | last {s : List UInt8} {l : Literal} (h : literal s = some (l, ascii ");")) : Row s [l]
  | next {s rest : List UInt8} {l : Literal} {ls : List Literal}
      (h : literal s = some (l, 44 :: rest)) (hs : Row rest ls) : Row s (l :: ls)

/-- A text that is one `INSERT` of a row. -/
def Inserts (table sql : List UInt8) (row : List Literal) : Prop :=
  ∃ s, sql = ascii "INSERT INTO " ++ table ++ ascii " VALUES(" ++ s ∧ Row s row

/-- A literal is the value that is wanted, if there is one. -/
def Agrees (want : Option Literal) (l : Literal) : Prop := ∀ v ∈ want, l = v

/-- The texts of values are a row with the wanted values. -/
def Says (values : List (List UInt8)) (wants : List (Option Literal)) : Prop :=
  ∃ row, Row ((ascii ",").intercalate values ++ ascii ");") row ∧ List.Forall₂ Agrees wants row

/-! ## Reading texts -/

section Text

variable {s t rest : List UInt8}

theorem escape_cons (c : UInt8) (t : List UInt8) :
    escape (c :: t) = (if c = 39 then [39, 39] else [c]) ++ escape t := rfl

theorem escape_of_notMem (h : 39 ∉ t) : escape t = t := by
  induction t with
  | nil => rfl
  | cons c t ih =>
    rw [List.mem_cons, not_or] at h
    rw [escape_cons, if_neg (Ne.symm h.1), ih h.2]
    rfl

theorem escape_append (s t : List UInt8) : escape (s ++ t) = escape s ++ escape t :=
  List.flatMap_append

/-- A text without quotes. -/
theorem textLiteral_append (ht : 39 ∉ t) (hrest : rest.head? ≠ some 39) :
    textLiteral (t ++ 39 :: rest) = some (t, rest) := by
  induction t with
  | nil =>
    cases rest with
    | nil => rfl
    | cons d rest =>
      have hd : d ≠ 39 := fun h => hrest (congrArg some h)
      rw [List.nil_append, textLiteral, if_pos rfl, if_neg hd]
  | cons c t ih =>
    rw [List.mem_cons, not_or] at ht
    obtain ⟨d, s, hs⟩ : ∃ d s, t ++ 39 :: rest = d :: s := by
      cases t with
      | nil => exact ⟨_, _, rfl⟩
      | cons d t => exact ⟨_, _, rfl⟩
    have ih := ih ht.2
    rw [hs] at ih
    rw [List.cons_append, hs, textLiteral, if_neg (Ne.symm ht.1), ih]
    rfl

/-- What is read was written with its quotes twice. -/
theorem eq_escape_append (h : textLiteral s = some (t, rest)) : s = escape t ++ 39 :: rest := by
  induction s using textLiteral.induct generalizing t with
  | case1 => cases h
  | case2 =>
    cases h
    rfl
  | case3 c hc =>
    rw [textLiteral, if_neg hc] at h
    cases h
  | case4 s ih =>
    rw [textLiteral, if_pos rfl, if_pos rfl, Option.map_eq_some_iff] at h
    obtain ⟨⟨t, rest⟩, hread, hpair⟩ := h
    cases hpair
    rw [ih hread]
    rfl
  | case5 d s hd =>
    rw [textLiteral, if_pos rfl, if_neg hd] at h
    cases h
    rfl
  | case6 c d s hc ih =>
    rw [textLiteral, if_neg hc, Option.map_eq_some_iff] at h
    obtain ⟨⟨t, rest⟩, hread, hpair⟩ := h
    cases hpair
    rw [ih hread, escape_cons, if_neg hc]
    rfl

/-- After a quote that is written once there is no way to fall into step again. -/
theorem append_ne_replicate_append {b post : List UInt8} (hpost : post.head? ≠ some 44) (k : ℕ) :
    b ++ 39 :: 44 :: rest ≠ List.replicate (k + 1) 39 ++ (escape b ++ post) := by
  induction b generalizing k with
  | nil =>
    intro h
    rw [List.replicate_succ, List.nil_append, List.cons_append] at h
    have h := (List.cons.inj h).2
    cases k with
    | zero =>
      refine hpost ?_
      rw [List.replicate_zero, List.nil_append] at h
      exact (congrArg List.head? h).symm
    | succ k =>
      rw [List.replicate_succ, List.cons_append] at h
      exact absurd (List.cons.inj h).1 (by decide)
  | cons c b ih =>
    intro h
    rw [List.replicate_succ, List.cons_append, List.cons_append] at h
    obtain ⟨rfl, h⟩ := List.cons.inj h
    refine ih (k + 1) ?_
    rw [h, escape_cons, if_pos rfl, ← List.append_assoc, ← List.append_assoc,
      ← List.append_assoc]
    congr 2
    exact List.replicate_append_replicate (n := k) (m := 2) (a := (39 : UInt8))

/-- A text that is written as it is says itself only without quotes. -/
theorem notMem_of_append_eq {post : List UInt8} (hpost : post.head? ≠ some 44)
    (h : t ++ 39 :: 44 :: rest = escape t ++ post) : 39 ∉ t := by
  induction t with
  | nil => exact List.not_mem_nil
  | cons c t ih =>
    rw [escape_cons, List.append_assoc, List.cons_append] at h
    by_cases hc : c = 39
    · subst hc
      rw [if_pos rfl] at h
      exact absurd (List.cons.inj h).2 (append_ne_replicate_append hpost 0)
    · rw [if_neg hc] at h
      rw [List.mem_cons, not_or]
      exact ⟨Ne.symm hc, ih (List.cons.inj h).2⟩

end Text

/-! ## Reading values -/

/-- A value that is read as this literal wherever it stands in a row. -/
def Reads (v : List UInt8) (l : Literal) : Prop :=
  ∀ (c : UInt8) (rest : List UInt8), c = 44 ∨ c = 41 →
    literal (v ++ c :: rest) = some (l, c :: rest)

section Reads

variable {v w t s rest : List UInt8} {vs ws : List (List UInt8)} {l : Literal}
variable {ls row : List Literal}

theorem reads_text (ht : 39 ∉ t) : Reads (39 :: (t ++ [39])) (.text t) := by
  intro c rest hc
  have hrest : (c :: rest).head? ≠ some 39 := by
    rintro h
    cases h
    rcases hc with hc | hc <;> cases hc
  have hread := textLiteral_append ht hrest
  rw [List.cons_append, List.append_assoc, List.singleton_append, literal, if_pos rfl, hread]
  rfl

theorem reads_number {q : ℚ} (hall : ∀ c ∈ v, isNumeral c = true) (hv : numeral v = some q) :
    Reads v (.number q) := by
  intro c rest hc
  have hstop : isNumeral c = false := by
    rcases hc with rfl | rfl <;> decide
  have htake : (v ++ c :: rest).takeWhile isNumeral = v := by
    rw [List.takeWhile_append_of_pos hall, List.takeWhile_cons_of_neg (by rw [hstop]; decide),
      List.append_nil]
  have hdrop : (v ++ c :: rest).dropWhile isNumeral = c :: rest := by
    rw [List.dropWhile_append_of_pos hall, List.dropWhile_cons_of_neg (by rw [hstop]; decide)]
  cases v with
  | nil => cases hv
  | cons d v =>
    have hd : d ≠ 39 := by
      rintro rfl
      exact absurd (hall 39 List.mem_cons_self) (by decide)
    rw [List.cons_append] at htake hdrop ⊢
    rw [literal, if_neg hd, htake, hv, hdrop]
    rfl

theorem isNumeral_of_mem_dec {n : ℕ} {c : UInt8} (hc : c ∈ dec n) : isNumeral c = true := by
  rw [isNumeral, isDigit_of_mem_dec hc]
  rfl

theorem reads_dec (n : ℕ) : Reads (dec n) (.number n) :=
  reads_number (fun _ => isNumeral_of_mem_dec) (numeral_dec n)

theorem reads_int (z : ℤ) : Reads (int z) (.number z) := by
  refine reads_number (fun c hc => ?_) (numeral_int z)
  rw [int] at hc
  split at hc
  · rcases List.mem_cons.1 hc with rfl | hc
    · decide
    · exact isNumeral_of_mem_dec hc
  · exact isNumeral_of_mem_dec hc

/-- What is printed of a finite `float` is read as a number. -/
theorem reads_fixed {prec : ℕ} {f : UInt32} {q : ℚ} (hf : finite f = true)
    (h : numeral (fixed prec f) = some q) : Reads (fixed prec f) (.number q) := by
  refine reads_number (fun c hc => ?_) h
  have hpoint : ∀ n, c ∈ point prec n → isNumeral c = true := by
    intro n hc
    rw [point, List.mem_append, List.mem_cons] at hc
    rcases hc with hc | rfl | hc
    · exact isNumeral_of_mem_dec hc
    · decide
    · rw [isNumeral, isDigit_of_mem_pad hc]
      rfl
  rw [fixed, float, if_pos hf] at hc
  split at hc
  · rcases List.mem_cons.1 hc with rfl | hc
    · decide
    · exact hpoint _ hc
  · exact hpoint _ hc

/-- An infinite `float` and a NaN are no literals. -/
theorem literal_fixed_of_not_finite {prec : ℕ} {f : UInt32} (hf : ¬finite f = true) :
    literal (fixed prec f ++ rest) = none := by
  rw [fixed, float, if_neg hf]
  split <;> split <;> rfl

theorem row_next_iff (h : Reads v l) :
    Row (v ++ 44 :: rest) row ↔ ∃ ls, row = l :: ls ∧ Row rest ls := by
  have hread := h 44 rest (Or.inl rfl)
  constructor
  · intro hrow
    cases hrow with
    | last hlast =>
      rw [hread] at hlast
      cases hlast
    | next hnext hs =>
      rw [hread] at hnext
      cases hnext
      exact ⟨_, rfl, hs⟩
  · rintro ⟨ls, rfl, hs⟩
    exact .next hread hs

theorem row_last_iff (h : Reads v l) : Row (v ++ ascii ");") row ↔ row = [l] := by
  have hread : literal (v ++ ascii ");") = some (l, ascii ");") := h 41 [59] (Or.inr rfl)
  constructor
  · intro hrow
    cases hrow with
    | last hlast =>
      rw [hread] at hlast
      cases hlast
      rfl
    | next hnext _ =>
      rw [hread] at hnext
      cases hnext
  · rintro rfl
    exact .last hread

/-- A text that is written between quotes as it is. -/
theorem notMem_of_row {name post : List UInt8} (hname : name = t ++ post)
    (hpost : post = [] ∨ post.head? = some 0)
    (h : Row (39 :: (t ++ [39]) ++ 44 :: rest) (.text name :: row)) : post = [] ∧ 39 ∉ t := by
  subst hname
  have hread : ∃ rest', textLiteral (t ++ 39 :: 44 :: rest) = some (t ++ post, rest') := by
    have hliteral : ∃ rest', literal (39 :: (t ++ [39]) ++ 44 :: rest) =
        some (.text (t ++ post), rest') := by
      cases h with
      | last h => exact ⟨_, h⟩
      | next h _ => exact ⟨_, h⟩
    obtain ⟨rest', hliteral⟩ := hliteral
    rw [List.cons_append, List.append_assoc, List.singleton_append, literal, if_pos rfl,
      Option.map_eq_some_iff] at hliteral
    obtain ⟨⟨c, rest⟩, hread, hpair⟩ := hliteral
    cases hpair
    exact ⟨_, hread⟩
  obtain ⟨rest', hread⟩ := hread
  have heq := eq_escape_append hread
  rw [escape_append, List.append_assoc] at heq
  have hhead : (escape post ++ 39 :: rest').head? ≠ some 44 := by
    cases post with
    | nil =>
      intro h
      cases h
    | cons c post =>
      rcases hpost with hpost | hpost
      · cases hpost
      · cases hpost
        intro h
        cases h
  have hquote := notMem_of_append_eq hhead heq
  refine ⟨?_, hquote⟩
  cases post with
  | nil => rfl
  | cons c post =>
    rcases hpost with hpost | hpost
    · cases hpost
    · cases hpost
      rw [escape_of_notMem hquote] at heq
      cases List.append_cancel_left heq

end Reads

/-! ## Columns -/

section Columns

variable {v w t rest : List UInt8} {ws : List (List UInt8)} {l : Literal}
variable {want : Option Literal} {wants : List (Option Literal)}

theorem intercalate_append (v w : List UInt8) (ws : List (List UInt8)) :
    (ascii ",").intercalate (v :: w :: ws) ++ ascii ");" =
      v ++ 44 :: ((ascii ",").intercalate (w :: ws) ++ ascii ");") := by
  rw [List.intercalate_cons_cons, List.append_assoc, List.append_assoc]
  rfl

/-- A column whose text is always read as the same literal. -/
theorem says_cons_iff (h : Reads v l) :
    Says (v :: w :: ws) (want :: wants) ↔ Agrees want l ∧ Says (w :: ws) wants := by
  rw [Says, Says, intercalate_append]
  constructor
  · rintro ⟨row, hrow, hagree⟩
    obtain ⟨ls, rfl, hls⟩ := (row_next_iff h).1 hrow
    obtain ⟨hl, hagree⟩ := List.forall₂_cons.1 hagree
    exact ⟨hl, ls, hls, hagree⟩
  · rintro ⟨hl, ls, hls, hagree⟩
    exact ⟨l :: ls, (row_next_iff h).2 ⟨ls, rfl, hls⟩, List.forall₂_cons.2 ⟨hl, hagree⟩⟩

theorem says_singleton_iff (h : Reads v l) : Says [v] [want] ↔ Agrees want l := by
  rw [Says, List.intercalate_singleton]
  constructor
  · rintro ⟨row, hrow, hagree⟩
    rw [(row_last_iff h).1 hrow] at hagree
    exact (List.forall₂_cons.1 hagree).1
  · intro hl
    exact ⟨[l], (row_last_iff h).2 rfl, .cons hl .nil⟩

theorem agrees_some_iff {v : Literal} : Agrees (some v) l ↔ l = v := by
  simp [Agrees]

/-- A string between quotes says its name if there are no NULs and no quotes. -/
theorem says_name_iff {name : List UInt8} :
    Says ((39 :: (text name ++ [39])) :: w :: ws) (some (.text name) :: wants) ↔
      (0 ∉ name ∧ 39 ∉ name) ∧ Says (w :: ws) wants := by
  constructor
  · intro h
    obtain ⟨post, hname, hpost⟩ := exists_text_append name
    have hplain : post = [] ∧ 39 ∉ text name := by
      obtain ⟨row, hrow, hagree⟩ := h
      rw [intercalate_append] at hrow
      obtain ⟨l, ls, hl, -, rfl⟩ := List.forall₂_cons_left_iff.1 hagree
      rw [agrees_some_iff.1 hl] at hrow
      exact notMem_of_row hname hpost hrow
    obtain ⟨rfl, hquote⟩ := hplain
    rw [List.append_nil] at hname
    rw [← hname] at hquote h
    rw [says_cons_iff (reads_text hquote)] at h
    refine ⟨⟨?_, hquote⟩, h.2⟩
    rw [hname]
    exact zero_notMem_text name
  · rintro ⟨⟨hzero, hquote⟩, h⟩
    rw [text_of_notMem hzero, says_cons_iff (reads_text hquote), agrees_some_iff]
    exact ⟨rfl, h⟩

/-- A `float` says its value if two decimals are enough. -/
theorem says_fixed_iff {f : UInt32} :
    Says (fixed 2 f :: w :: ws) (some (.number (value f)) :: wants) ↔
      Quarters f ∧ Says (w :: ws) wants := by
  by_cases hf : finite f = true
  · have hnumeral : numeral (fixed 2 f) = some _ := numeral_fixed (by decide) hf
    rw [says_cons_iff (reads_fixed hf hnumeral), agrees_some_iff, ← numeral_fixed_two_iff hf,
      hnumeral, Literal.number.injEq, Option.some_inj]
  · refine iff_of_false ?_ fun h => hf h.1.1
    rintro ⟨row, hrow, -⟩
    rw [intercalate_append] at hrow
    cases hrow with
    | last h =>
      rw [literal_fixed_of_not_finite hf] at h
      cases h
    | next h _ =>
      rw [literal_fixed_of_not_finite hf] at h
      cases h

end Columns

end Sql

end FlexRic
