import FlexRic.Semantics.CString

/-!
# The configuration file (`util/conf_file.c`)

`get_near_ric_ip`, `get_conf_db_dir` and `get_conf_db_name` look for the first line with their key,
and copy what stands behind the key, without the blanks around it, into a buffer. The assertion
before the copy lets a value pass that fills the buffer; then there is no room for the NUL.
-/

namespace FlexRic

open Outcome CString

/-! ## The code -/

/-- The loop `while(isspace(*s)) s++` on the bytes from `s` on: the number of its turns. -/
def skipBlanks : List UInt8 → Outcome ℕ
  | [] => faults .pastEnd
  | c :: cs =>
    if isspace c then do
      let n ← skipBlanks cs
      return n + 1
    else return 0

/-- `ltrim` -/
def ltrim (mem : List UInt8) (s : ℕ) : Outcome ℕ := do
  let n ← skipBlanks (mem.drop s)
  return s + n

/-- The loop `while(isspace(*--back))`. -/
def backOverBlanks (mem : List UInt8) : ℕ → Outcome ℕ
  | 0 => faults .pastEnd
  | back + 1 => do
    let c ← Outcome.read mem back
    if isspace c then backOverBlanks mem back else return back

/-- `rtrim` -/
def rtrim (mem : List UInt8) (s : ℕ) : Outcome (List UInt8) := do
  let len ← strlen mem s
  let back ← backOverBlanks mem (s + len)
  orFault .pastEnd (Buffer.store mem (back + 1) 0)

/-- One turn of the loops over the lines, with a buffer of `size` bytes that are zero. The line
is followed by the NUL of `getline`. -/
def readValue (needle : List UInt8) (size : ℕ) (line : List UInt8) :
    Outcome (Option (List UInt8)) :=
  let mem := line ++ [0]
  match strstr needle (text mem) with
  | none => return none
  | some i => do
    let ans ← ltrim mem (i + needle.length)
    let mem ← rtrim mem ans
    let len ← strlen mem ans
    check (len ≤ size)
    let buf ← orFault .pastEnd (Buffer.memcpy (List.replicate size 0) 0 mem ans len)
    return some buf

/-- The loops over the lines: the buffer at their end. -/
def readValues (needle : List UInt8) (size : ℕ) : List (List UInt8) → Outcome (List UInt8)
  | [] => return List.replicate size 0
  | line :: lines => do
    let buf ← readValue needle size line
    match buf with
    | some buf => return buf
    | none => readValues needle size lines

/-- What `getline` returns, one line after the other, each with its newline. -/
def getlines : List UInt8 → List (List UInt8)
  | [] => []
  | c :: cs =>
    if c = 10 then [c] :: getlines cs
    else
      match getlines cs with
      | [] => [[c]]
      | line :: lines => (c :: line) :: lines

/-- `valid_ip`, where `inetPton` says whether the function of this name takes an address. -/
def validIp (inetPton : List UInt8 → Bool) (ip : List UInt8) : Outcome Bool := do
  let len ← strlen ip 0
  if len < 7 then return false
  else return inetPton (ip.take len)

/-- `get_near_ric_ip` with the content of the file, if there is a file. -/
def getNearRicIp (inetPton : List UInt8 → Bool) (file : Option (List UInt8)) :
    Outcome (List UInt8) := do
  let content ← orStop file
  let ipAddr ← readValues (ascii "NEAR_RIC_IP =") 24 (getlines content)
  let valid ← validIp inetPton ipAddr
  check (valid = true)
  strdup ipAddr

/-- `PATH_MAX` -/
def pathMax : ℕ := 4096

/-- `get_conf_db_dir` -/
def getConfDbDir (file : Option (List UInt8)) : Outcome (List UInt8) := do
  let content ← orStop file
  let dbDir ← readValues (ascii "DB_DIR =") pathMax (getlines content)
  strdup dbDir

/-- `get_conf_db_name` -/
def getConfDbName (file : Option (List UInt8)) : Outcome (List UInt8) := do
  let content ← orStop file
  let dbName ← readValues (ascii "DB_NAME =") 24 (getlines content)
  strdup dbName

/-! ## Trimming -/

/-- A text without the blanks around it. -/
def trim (s : List UInt8) : List UInt8 := (s.dropWhile isspace).rdropWhile isspace

theorem rdropWhile_append {α : Type} (p : α → Bool) (x y : List α) :
    (x ++ y).rdropWhile p =
      if y.rdropWhile p = [] then x.rdropWhile p else x ++ y.rdropWhile p := by
  simp only [List.rdropWhile, List.reverse_append, List.dropWhile_append, List.isEmpty_iff,
    List.reverse_eq_nil_iff]
  split
  · rfl
  · rw [List.reverse_append, List.reverse_reverse]

/-- The loop of `ltrim` ends at the NUL at the latest. -/
theorem skipBlanks_append (s post : List UInt8) :
    skipBlanks (s ++ 0 :: post) = returns (s.takeWhile isspace).length := by
  induction s with
  | nil => rfl
  | cons c cs ih =>
    rw [List.cons_append, skipBlanks]
    by_cases hc : isspace c = true
    · rw [if_pos hc, ih, List.takeWhile_cons_of_pos hc]
      rfl
    · rw [if_neg hc, List.takeWhile_cons_of_neg hc]
      rfl

/-- The loop of `rtrim` ends at the last byte that is not a blank. -/
theorem backOverBlanks_append {s : List UInt8} (h : s.rdropWhile isspace ≠ [])
    (post : List UInt8) : ∃ back, backOverBlanks (s ++ post) s.length = returns back ∧
      back + 1 = (s.rdropWhile isspace).length := by
  induction s using List.reverseRecOn generalizing post with
  | nil => exact absurd (List.rdropWhile_nil _) h
  | append_singleton s c ih =>
    have hread : Outcome.read (s ++ [c] ++ post) s.length = returns c := by
      rw [Outcome.read, List.append_assoc, List.getElem?_append_right (Nat.le_refl _), Nat.sub_self]
      rfl
    rw [List.length_append, List.length_singleton, backOverBlanks, hread, returns_bind]
    by_cases hc : isspace c = true
    · rw [List.rdropWhile_concat_pos _ _ _ hc] at h ⊢
      rw [if_pos hc, List.append_assoc]
      exact ih h ([c] ++ post)
    · refine ⟨s.length, if_neg hc, ?_⟩
      rw [List.rdropWhile_concat_neg _ _ _ hc, List.length_append, List.length_singleton]

theorem set_append_cons {α : Type} (pre : List α) (x y : α) (post : List α) :
    (pre ++ x :: post).set pre.length y = pre ++ y :: post := by
  rw [List.set_append_right _ _ (Nat.le_refl _), Nat.sub_self, List.set_cons_zero]

section Rtrim

variable {w b u rest : List UInt8} {c : UInt8}

/-- Blanks behind a byte that is none. -/
theorem rdropWhile_append_blanks (hc : ¬isspace c = true) (hb : ∀ x ∈ b, isspace x = true) :
    (w ++ [c] ++ b).rdropWhile isspace = w ++ [c] := by
  rw [rdropWhile_append, if_pos (List.rdropWhile_eq_nil_iff.2 hb),
    List.rdropWhile_concat_neg _ _ _ hc]

/-- What `rtrim` does: it puts a NUL behind the last byte that is not a blank. -/
theorem rtrim_eq (hc : ¬isspace c = true) (hb : ∀ x ∈ b, isspace x = true) (hu : 0 ∉ u) :
    rtrim (w ++ [c] ++ b ++ (u ++ 0 :: rest)) (w ++ [c] ++ b).length =
      returns ((w ++ [c] ++ b ++ (u ++ 0 :: rest)).set
        ((w ++ [c] ++ b ++ u).rdropWhile isspace).length 0) := by
  have hassoc : w ++ [c] ++ b ++ (u ++ 0 :: rest) = w ++ [c] ++ b ++ u ++ 0 :: rest :=
    (List.append_assoc ..).symm
  have hne : (w ++ [c] ++ b ++ u).rdropWhile isspace ≠ [] := by
    rw [rdropWhile_append, rdropWhile_append_blanks hc hb]
    split <;> simp
  obtain ⟨back, hback, hlen⟩ := backOverBlanks_append hne (0 :: rest)
  have hle : ((w ++ [c] ++ b ++ u).rdropWhile isspace).length ≤ (w ++ [c] ++ b ++ u).length :=
    (List.rdropWhile_prefix _ _).length_le
  have hlt : ((w ++ [c] ++ b ++ u).rdropWhile isspace).length <
      (w ++ [c] ++ b ++ u ++ 0 :: rest).length := by
    rw [List.length_append, List.length_cons]
    omega
  rw [rtrim, strlen_append hu, returns_bind, ← List.length_append, hassoc, hback, returns_bind,
    hlen, Buffer.store_of_lt hlt]
  rfl

/-- The string at `u` without the blanks at its end. If there is nothing else in it, `rtrim` goes
back to the byte in front of the blanks `b`, and the string at `u` stays empty. -/
theorem rtrim_append (rest : List UInt8) (hc : ¬isspace c = true)
    (hb : ∀ x ∈ b, isspace x = true) (hu : 0 ∉ u) (hhead : u.rdropWhile isspace = [] → u = []) :
    ∃ pre rest', rtrim (w ++ [c] ++ b ++ (u ++ 0 :: rest)) (w ++ [c] ++ b).length =
        returns (pre ++ (u.rdropWhile isspace ++ 0 :: rest')) ∧
      pre.length = (w ++ [c] ++ b).length := by
  rw [rtrim_eq hc hb hu, rdropWhile_append, rdropWhile_append_blanks hc hb]
  by_cases hnil : u.rdropWhile isspace = []
  · obtain rfl := hhead hnil
    rw [if_pos hnil, hnil, List.nil_append, List.append_assoc (w ++ [c])]
    cases b with
    | nil => exact ⟨w ++ [c], rest, by rw [List.nil_append, set_append_cons], by simp⟩
    | cons x b =>
      refine ⟨w ++ [c] ++ 0 :: b, rest, ?_, by simp⟩
      rw [List.cons_append, set_append_cons]
      simp
  · obtain ⟨r, hr⟩ := List.rdropWhile_prefix isspace u
    rw [if_neg hnil]
    generalize u.rdropWhile isspace = t at hr
    subst hr
    obtain ⟨y, ys, hys⟩ : ∃ y ys, r ++ 0 :: rest = y :: ys := by
      cases r with
      | nil => exact ⟨0, rest, rfl⟩
      | cons y r => exact ⟨y, r ++ 0 :: rest, rfl⟩
    refine ⟨w ++ [c] ++ b, ys, ?_, rfl⟩
    rw [List.append_assoc t r, hys, ← List.append_assoc (w ++ [c] ++ b) t, set_append_cons,
      List.append_assoc]

end Rtrim

/-! ## Lines -/

/-- What a line says for a key. -/
def lineValue (needle line : List UInt8) : Option (List UInt8) :=
  (strstr needle (text line)).map fun i => trim ((text line).drop (i + needle.length))

/-- What the first line with the key says. -/
def confValue (needle content : List UInt8) : Option (List UInt8) :=
  (getlines content).findSome? (lineValue needle)

/-- The lines are what the file consists of. -/
theorem flatten_getlines (content : List UInt8) : (getlines content).flatten = content := by
  induction content with
  | nil => rfl
  | cons c cs ih =>
    rw [getlines]
    split
    · rw [List.flatten_cons, ih]
      rfl
    · cases hlines : getlines cs with
      | nil =>
        rw [hlines] at ih
        rw [← ih]
        rfl
      | cons line lines =>
        rw [hlines, List.flatten_cons] at ih
        rw [← ih]
        rfl

/-- The first byte behind the blanks is none. -/
theorem eq_nil_of_rdropWhile {s : List UInt8}
    (h : (s.dropWhile isspace).rdropWhile isspace = []) : s.dropWhile isspace = [] := by
  cases hs : s.dropWhile isspace with
  | nil => rfl
  | cons c cs =>
    have hhead : ¬isspace c = true := by
      have hne : s.dropWhile isspace ≠ [] := by simp [hs]
      have hnot := List.head_dropWhile_not isspace hne
      simp only [hs, List.head_cons] at hnot
      rw [hnot]
      exact Bool.false_ne_true
    rw [hs, List.rdropWhile_eq_nil_iff] at h
    exact absurd (h c List.mem_cons_self) hhead

section Turn

variable {key needle line t : List UInt8} {c : UInt8} {size : ℕ}

/-- A line without the key. -/
theorem readValue_none (h : lineValue needle line = none) :
    readValue needle size line = returns none := by
  rw [lineValue, Option.map_eq_none_iff] at h
  rw [readValue, text_concat, h]
  rfl

/-- A line with the key: the blanks `b` behind it, and what comes behind them up to a NUL. -/
theorem exists_of_lineValue (h : lineValue needle line = some t) : ∃ pre b u rest,
    strstr needle (text line) = some pre.length ∧
    line ++ [0] = pre ++ needle ++ b ++ (u ++ 0 :: rest) ∧ (b ++ u).takeWhile isspace = b ∧
    0 ∉ u ∧ (u.rdropWhile isspace = [] → u = []) ∧ t = u.rdropWhile isspace := by
  obtain ⟨i, hi, rfl⟩ := Option.map_eq_some_iff.1 h
  obtain ⟨pre, post, htext, rfl⟩ := eq_append_of_strstr hi
  obtain ⟨rest, hrest⟩ := exists_eq_text_append line
  have hpost : (text line).drop (pre.length + needle.length) = post := by
    rw [htext, ← List.length_append, ← List.append_assoc, List.drop_left]
  refine ⟨pre, post.takeWhile isspace, post.dropWhile isspace, rest, hi, ?_, ?_, fun hmem => ?_,
    eq_nil_of_rdropWhile, by rw [hpost, trim]⟩
  · rw [hrest, htext, List.append_assoc _ (post.takeWhile isspace),
      ← List.append_assoc (post.takeWhile isspace), List.takeWhile_append_dropWhile]
    simp only [List.append_assoc]
  · rw [List.takeWhile_append_dropWhile]
  · apply zero_notMem_text line
    rw [htext]
    have hmem := (List.dropWhile_suffix isspace).mem hmem
    exact List.mem_append_right _ (List.mem_append_right _ hmem)

theorem ltrim_append {w b u rest : List UInt8} (hb : (b ++ u).takeWhile isspace = b) :
    ltrim (w ++ b ++ (u ++ 0 :: rest)) w.length = returns (w ++ b).length := by
  have hdrop : (w ++ b ++ (u ++ 0 :: rest)).drop w.length = b ++ u ++ 0 :: rest := by
    rw [List.append_assoc, List.drop_left, List.append_assoc]
  rw [ltrim, hdrop, skipBlanks_append, hb, returns_bind, List.length_append]
  rfl

/-- The value in the buffer, with zeros behind it. -/
theorem memcpy_value {pre rest : List UInt8} (hsize : t.length ≤ size) :
    Buffer.memcpy (List.replicate size 0) 0 (pre ++ (t ++ 0 :: rest)) pre.length t.length =
      some (t ++ List.replicate (size - t.length) 0) := by
  have hlen : (List.replicate size (0 : UInt8)).length = size := List.length_replicate
  have hend : pre.length + t.length ≤ (pre ++ (t ++ 0 :: rest)).length := by
    simp only [List.length_append]
    omega
  rw [Buffer.memcpy_zero hend (by omega), List.drop_left, List.take_left, List.drop_replicate]

/-- A line with the key; the key ends with a byte that is not a blank. -/
theorem readValue_some (hneedle : needle = key ++ [c]) (hc : ¬isspace c = true)
    (h : lineValue needle line = some t) : readValue needle size line =
      if t.length ≤ size then returns (some (t ++ List.replicate (size - t.length) 0))
      else stops := by
  obtain ⟨pre, b, u, rest, hi, hmem, hb, hu, hhead, rfl⟩ := exists_of_lineValue h
  have hblank : ∀ x ∈ b, isspace x = true := by
    intro x hx
    rw [← hb] at hx
    exact List.mem_takeWhile_imp hx
  have hltrim : ltrim (line ++ [0]) (pre.length + needle.length) =
      returns (pre ++ needle ++ b).length := by
    rw [hmem, ← List.length_append]
    exact ltrim_append hb
  obtain ⟨pre', rest', hrtrim, hlen⟩ := rtrim_append (w := pre ++ key) rest hc hblank hu hhead
  rw [List.append_assoc pre, ← hneedle] at hrtrim hlen
  have ht : 0 ∉ u.rdropWhile isspace := by
    intro hmem
    exact hu ((List.rdropWhile_prefix isspace u).mem hmem)
  rw [readValue, text_concat, hi]
  simp only [hltrim, returns_bind]
  rw [hmem, hrtrim, returns_bind, ← hlen, strlen_append ht, returns_bind]
  by_cases hle : (u.rdropWhile isspace).length ≤ size
  · rw [check, if_pos hle, if_pos hle, returns_bind, memcpy_value hle]
    rfl
  · rw [check, if_neg hle, if_neg hle]
    rfl

end Turn

/-! ## Files -/

section Files

variable {key needle content t : List UInt8} {c : UInt8} {size : ℕ}

/-- The loop over the lines stops at the first one with the key. -/
theorem readValues_eq (hneedle : needle = key ++ [c]) (hc : ¬isspace c = true)
    {lines : List (List UInt8)} (h : lines.findSome? (lineValue needle) = some t) :
    readValues needle size lines =
      if t.length ≤ size then returns (t ++ List.replicate (size - t.length) 0) else stops := by
  induction lines with
  | nil => cases h
  | cons line lines ih =>
    rw [readValues]
    cases hline : lineValue needle line with
    | none =>
      rw [List.findSome?_cons_of_isNone (by rw [hline]; rfl)] at h
      rw [readValue_none hline, returns_bind]
      exact ih h
    | some t' =>
      rw [List.findSome?_cons_of_isSome (by rw [hline]; rfl), hline] at h
      cases h
      rw [readValue_some hneedle hc hline]
      split <;> rfl

/-- A value has no NUL. -/
theorem zero_notMem_of_confValue (h : confValue needle content = some t) : 0 ∉ t := by
  obtain ⟨line, -, hline⟩ := List.exists_of_findSome?_eq_some h
  obtain ⟨i, -, rfl⟩ := Option.map_eq_some_iff.1 hline
  intro hmem
  have hdrop := (List.dropWhile_suffix isspace).mem ((List.rdropWhile_prefix isspace _).mem hmem)
  exact zero_notMem_text line (List.mem_of_mem_drop hdrop)

/-- A value with room for the NUL behind it. -/
theorem append_replicate (h : t.length < size) : ∃ rest,
    t ++ List.replicate (size - t.length) 0 = t ++ 0 :: rest := by
  refine ⟨List.replicate (size - t.length - 1) 0, ?_⟩
  have hsucc : size - t.length = size - t.length - 1 + 1 := by omega
  rw [hsucc, List.replicate_succ]
  rfl

/-- What the getters of the database make of a file with their key: a value that is shorter than the
buffer is returned with a NUL behind it, and one that is longer is rejected. -/
theorem strdup_readValues (hneedle : needle = key ++ [c]) (hc : ¬isspace c = true)
    (h : confValue needle content = some t) (hsize : t.length ≠ size) :
    (do
      let buf ← readValues needle size (getlines content)
      strdup buf) = if t.length < size then returns (t ++ [0]) else stops := by
  rw [readValues_eq hneedle hc h]
  by_cases hlt : t.length < size
  · obtain ⟨rest, hrest⟩ := append_replicate hlt
    rw [if_pos hlt.le, if_pos hlt, returns_bind, hrest,
      strdup_append (zero_notMem_of_confValue h)]
  · rw [if_neg (by omega), if_neg hlt]
    rfl

/-- A value that fills the buffer leaves no room for a NUL, and the assertion lets it pass. -/
theorem strdup_readValues_full (hneedle : needle = key ++ [c]) (hc : ¬isspace c = true)
    (h : confValue needle content = some t) (hsize : t.length = size) :
    (do
      let buf ← readValues needle size (getlines content)
      strdup buf) = faults .pastEnd := by
  rw [readValues_eq hneedle hc h, if_pos hsize.le, hsize, Nat.sub_self, List.replicate_zero,
    List.append_nil, returns_bind, strdup_of_notMem (zero_notMem_of_confValue h)]

/-- What `get_near_ric_ip` makes of a file with its key: it also looks at the address. -/
theorem getNearRicIp_eq (inetPton : List UInt8 → Bool)
    (h : confValue (ascii "NEAR_RIC_IP =") content = some t) (hsize : t.length ≠ 24) :
    getNearRicIp inetPton (some content) =
      if t.length < 24 ∧ 7 ≤ t.length ∧ inetPton t = true then returns (t ++ [0]) else stops := by
  have hneedle : ascii "NEAR_RIC_IP =" = ascii "NEAR_RIC_IP " ++ [61] := by decide
  have ht := zero_notMem_of_confValue h
  rw [getNearRicIp, orStop, returns_bind, readValues_eq hneedle (by decide) h]
  by_cases hlt : t.length < 24
  · obtain ⟨rest, hrest⟩ := append_replicate hlt
    have hlen : strlen ([] ++ (t ++ 0 :: rest)) 0 = returns t.length := strlen_append ht
    rw [List.nil_append] at hlen
    rw [if_pos hlt.le, returns_bind, hrest, validIp, hlen, returns_bind, List.take_left,
      strdup_append ht]
    by_cases hshort : t.length < 7
    · rw [if_pos hshort, if_neg (by omega)]
      rfl
    · rw [if_neg hshort]
      by_cases hvalid : inetPton t = true
      · rw [if_pos ⟨hlt, by omega, hvalid⟩, hvalid]
        rfl
      · rw [if_neg (by tauto), Bool.not_eq_true] at *
        rw [hvalid]
        rfl
  · rw [if_neg (by omega), if_neg (by omega)]
    rfl

end Files

/-- What the getters make of a file with their key, unless the value fills the buffer. -/
theorem getters_eq (inetPton : List UInt8 → Bool) (content : List UInt8) :
    (∀ ip, confValue (ascii "NEAR_RIC_IP =") content = some ip → ip.length ≠ 24 →
      getNearRicIp inetPton (some content) =
        if ip.length < 24 ∧ 7 ≤ ip.length ∧ inetPton ip = true then returns (ip ++ [0])
        else stops) ∧
      (∀ dir, confValue (ascii "DB_DIR =") content = some dir → dir.length ≠ pathMax →
        getConfDbDir (some content) =
          if dir.length < pathMax then returns (dir ++ [0]) else stops) ∧
      (∀ name, confValue (ascii "DB_NAME =") content = some name → name.length ≠ 24 →
        getConfDbName (some content) =
          if name.length < 24 then returns (name ++ [0]) else stops) := by
  refine ⟨?_, ?_, ?_⟩
  · intro ip h hsize
    exact getNearRicIp_eq inetPton h hsize
  · intro dir h hsize
    have hneedle : ascii "DB_DIR =" = ascii "DB_DIR " ++ [61] := by decide
    exact strdup_readValues hneedle (by decide) h hsize
  · intro name h hsize
    have hneedle : ascii "DB_NAME =" = ascii "DB_NAME " ++ [61] := by decide
    exact strdup_readValues hneedle (by decide) h hsize

/-- A file with the three keys. -/
def confFile : List UInt8 :=
  ascii "[NEAR-RIC]\nNEAR_RIC_IP = 10.0.0.1\n[XAPP]\nDB_DIR =  /tmp/ \nDB_NAME = x\n"

theorem getters_eq_confFile :
    getNearRicIp (fun ip => ip = ascii "10.0.0.1") (some confFile) =
        returns (ascii "10.0.0.1" ++ [0]) ∧
      getConfDbDir (some confFile) = returns (ascii "/tmp/" ++ [0]) ∧
      getConfDbName (some confFile) = returns (ascii "x" ++ [0]) := by
  obtain ⟨hip, hdir, hname⟩ := getters_eq (fun ip => ip = ascii "10.0.0.1") confFile
  exact ⟨hip (ascii "10.0.0.1") (by decide) (by decide),
    hdir (ascii "/tmp/") (by decide) (by decide), hname (ascii "x") (by decide) (by decide)⟩

/-- A text that fits and is no address is not returned. -/
theorem getNearRicIp_ric :
    confValue (ascii "NEAR_RIC_IP =") (ascii "NEAR_RIC_IP = ric\n") = some (ascii "ric") ∧
      (ascii "ric").length < 24 ∧
      getNearRicIp (fun _ => false) (some (ascii "NEAR_RIC_IP = ric\n")) = stops := by
  refine ⟨by decide, by decide, ?_⟩
  rfl

end FlexRic
