import FlexRic.Semantics.Printf
import FlexRic.Sm.Slice.DataIe

/-!
# The text of a slice indication (`ric/iApps/string_parser.c`)

`to_string_slice` prints each piece of its text to an array of 2048 bytes and copies it behind the
pieces before it. The assertion is about the length of the piece; whether there is room for it in
the caller's buffer is not looked at.
-/

namespace FlexRic

open Outcome CString Printf

/-! ## The code -/

/-- A string of a decoded message: there is a NUL behind its bytes, and the pointer stays `NULL` if
there are none. -/
def cString (s : List UInt8) : Option (List UInt8) := if s = [] then none else some (s ++ [0])

/-- The first piece. -/
def sliceHead (dl : UlDlSliceConf) (tstamp : Int64) : List UInt8 :=
  if dl.slices = [] then
    ascii "slice_stats: tstamp=" ++ int tstamp.toInt ++
      ascii ",dl->sched_name=" ++ str (cString dl.schedName)
  else
    ascii "slice_stats: tstamp=" ++ int tstamp.toInt ++
      ascii ",slice_conf,dl,len_slices=" ++ u32 dl.slices.length

/-- The piece of a slice up to its parameters. -/
def sliceCommon (i : ℕ) (s : FrSlice) (name : List UInt8) : List UInt8 :=
  ascii ",slice[" ++ u32 i ++ ascii "]" ++
    ascii ",id=" ++ dec s.id.toNat ++
    ascii ",label=" ++ str (cString s.label) ++
    ascii ",type=" ++ word s.params.type.toUInt32 ++ ascii "," ++ name ++
    ascii ",sched=" ++ str (cString s.sched)

/-- The piece of a slice; there is none for the parameters of SCN19. -/
def sliceText (i : ℕ) (s : FrSlice) : Option (List UInt8) :=
  match s.params with
  | .sta sta => some (sliceCommon i s (ascii "static") ++
      ascii ",pos_high=" ++ dec sta.posHigh.toNat ++
      ascii ",pos_low=" ++ dec sta.posLow.toNat)
  | .nvs (.rate rate) => some (sliceCommon i s (ascii "nvs") ++
      ascii ",conf=" ++ word NvsSliceConfE.rate.toUInt32 ++ ascii ",rate" ++
      ascii ",mbps_required=" ++ fixed 2 rate.mbpsRequired ++
      ascii ",mbps_reference=" ++ fixed 2 rate.mbpsReference)
  | .nvs (.capacity capacity) => some (sliceCommon i s (ascii "nvs") ++
      ascii ",conf=" ++ word NvsSliceConfE.capacity.toUInt32 ++ ascii ",capacity" ++
      ascii ",pct_reserved=" ++ fixed 2 capacity.pctReserved)
  | .scn19 _ => none
  | .edf edf => some (sliceCommon i s (ascii "edf") ++
      ascii ",deadline=" ++ dec edf.deadline.toNat ++
      ascii ",guaranteed_prbs=" ++ dec edf.guaranteedPrbs.toNat ++
      ascii ",max_replenish=" ++ dec edf.maxReplenish.toNat)

/-- The piece before the first UE. -/
def ueSliceHead (ues : List UeSliceAssoc) : List UInt8 :=
  ascii ",ue_slice_conf,len_ue_slice=" ++ u32 ues.length

/-- The piece of a UE. -/
def ueSliceText (i : ℕ) (u : UeSliceAssoc) : List UInt8 :=
  ascii ",ues[" ++ u32 i ++ ascii "]" ++
    ascii ",rnti=" ++ hex u.rnti.toNat ++
    ascii ",dl_id=" ++ word u.dlId

/-- `char temp[2048]`, set to zero. -/
def emptyTemp : List UInt8 := List.replicate 2048 0

/-- The array `temp`, printed to if there is a piece, and its copy behind what is in `out`. -/
def putText (text : Option (List UInt8)) (out : List UInt8) (sz : ℕ) :
    Outcome (List UInt8 × ℕ) := do
  let temp ←
    match text with
    | none => pure emptyTemp
    | some text => do
      let (temp, rc) ← snprintf emptyTemp 0 out.length text
      check (rc < 2048)
      pure temp
  let len ← strlen temp 0
  let out ← orFault .pastEnd (Buffer.memcpy out sz temp 0 len)
  return (out, sz + len)

/-- A piece that is put only for the count or the index 0. -/
def putHead (i : ℕ) (head out : List UInt8) (sz : ℕ) : Outcome (List UInt8 × ℕ) :=
  if i = 0 then putText (some head) out sz else return (out, sz)

/-- The end of `to_string_slice`: a newline, the NUL and the last assertion. -/
def putEnd (out : List UInt8) (sz : ℕ) : Outcome (List UInt8) := do
  let out ← orFault .pastEnd (Buffer.splice out sz (ascii "\n"))
  let out ← orFault .pastEnd (Buffer.store out (sz + 1) 0)
  let len ← strlen out 0
  check (len < 2048)
  return out

/-- `to_string_slice`; the length of `out` is `out_len`. -/
def toStringSlice (slice : SliceIndMsg) (tstamp : Int64) (out : List UInt8) :
    Outcome (List UInt8) := do
  check (2048 ≤ out.length)
  let dl := slice.sliceConf.dl
  let ues := slice.ueSliceConf.ues
  let (out, sz) ← putHead dl.slices.length (sliceHead dl tstamp) out 0
  let (out, sz) ← dl.slices.zipIdx.foldlM (fun (out, sz) (s, i) => do
    let (out, sz) ← putHead i (sliceHead dl tstamp) out sz
    putText (sliceText i s) out sz) (out, sz)
  let (out, sz) ← ues.zipIdx.foldlM (fun (out, sz) (u, i) => do
    let (out, sz) ← putHead i (ueSliceHead ues) out sz
    putText (some (ueSliceText i u)) out sz) (out, sz)
  putEnd out sz

/-! ## Pieces -/

/-- The piece for the count or the index 0. -/
def headTexts (i : ℕ) (head : List UInt8) : List (Option (List UInt8)) :=
  if i = 0 then [some head] else []

/-- The pieces of the text. -/
def sliceTexts (slice : SliceIndMsg) (tstamp : Int64) : List (Option (List UInt8)) :=
  let dl := slice.sliceConf.dl
  let ues := slice.ueSliceConf.ues
  headTexts dl.slices.length (sliceHead dl tstamp) ++
    dl.slices.zipIdx.flatMap (fun (s, i) => headTexts i (sliceHead dl tstamp) ++ [sliceText i s]) ++
    ues.zipIdx.flatMap (fun (u, i) => headTexts i (ueSliceHead ues) ++ [some (ueSliceText i u)])

/-- The pieces, one behind the other. -/
def putTexts (texts : List (Option (List UInt8))) (st : List UInt8 × ℕ) :
    Outcome (List UInt8 × ℕ) :=
  texts.foldlM (fun st text => putText text st.1 st.2) st

theorem foldlM_flatMap {A B C : Type} (f : B → A → Outcome B) (g : C → List A) (l : List C)
    (b : B) : (l.flatMap g).foldlM f b = l.foldlM (fun b c => (g c).foldlM f b) b := by
  induction l generalizing b with
  | nil => rfl
  | cons c l ih =>
    rw [List.flatMap_cons, List.foldlM_append, List.foldlM_cons]
    exact congrArg (Outcome.bind _) (funext ih)

theorem putTexts_append (l m : List (Option (List UInt8))) (st : List UInt8 × ℕ) :
    putTexts (l ++ m) st = putTexts l st >>= putTexts m := List.foldlM_append

theorem putTexts_singleton (text : Option (List UInt8)) (st : List UInt8 × ℕ) :
    putTexts [text] st = putText text st.1 st.2 := bind_pure _

theorem putTexts_head (i : ℕ) (head : List UInt8) (st : List UInt8 × ℕ) :
    putTexts (headTexts i head) st = putHead i head st.1 st.2 := by
  rw [headTexts, putHead]
  split
  · exact putTexts_singleton _ st
  · rfl

/-- A loop whose turns put a piece, and in the first turn another one before it. -/
theorem putTexts_flatMap {A : Type} (l : List (A × ℕ)) (head : List UInt8)
    (text : ℕ → A → Option (List UInt8)) (st : List UInt8 × ℕ) :
    putTexts (l.flatMap fun (a, i) => headTexts i head ++ [text i a]) st =
      l.foldlM (fun (out, sz) (a, i) => do
        let (out, sz) ← putHead i head out sz
        putText (text i a) out sz) st := by
  rw [putTexts, foldlM_flatMap]
  congr 1
  funext st a
  refine (putTexts_append _ _ st).trans ?_
  rw [putTexts_head]
  exact congrArg (Outcome.bind _) (funext fun st => putTexts_singleton _ st)

/-- The function puts one piece behind the other, and a newline at the end. -/
theorem toStringSlice_eq (slice : SliceIndMsg) (tstamp : Int64) (out : List UInt8) :
    toStringSlice slice tstamp out = (do
      check (2048 ≤ out.length)
      let (out, sz) ← putTexts (sliceTexts slice tstamp) (out, 0)
      putEnd out sz) := by
  rw [toStringSlice, sliceTexts, putTexts_append, putTexts_append, putTexts_head, bind_assoc,
    bind_assoc]
  refine congrArg (Outcome.bind _) (funext fun _ => ?_)
  refine congrArg (Outcome.bind _) (funext fun st => ?_)
  rw [putTexts_flatMap _ _ sliceText]
  refine congrArg (Outcome.bind _) (funext fun st => ?_)
  rw [putTexts_flatMap _ _ fun i u => some (ueSliceText i u)]

/-! ## Room for the pieces -/

/-- A piece that the assertion refuses; one that is too long for an `int` is not refused. -/
def Refused (text : List UInt8) : Prop := 2048 ≤ text.length ∧ text.length < 2 ^ 31

instance : DecidablePred Refused := fun text =>
  inferInstanceAs (Decidable (2048 ≤ text.length ∧ text.length < 2 ^ 31))

/-- The number of bytes of a piece that are copied. -/
def copied (text : List UInt8) : ℕ := min text.length 2047

/-- The pieces before the first one that is refused. -/
def accepted (texts : List (List UInt8)) : List (List UInt8) :=
  texts.takeWhile fun text => ¬Refused text

/-- There is room in the buffer for the pieces that are copied before one is refused and, if none
is refused, for the newline and the NUL. A buffer of more than 2048 bytes also asks for pieces that
fit into `temp`. -/
structure FitsBuffer (outLen : ℕ) (texts : List (List UInt8)) : Prop where
  room : ((accepted texts).map copied).sum + (if accepted texts = texts then 2 else 0) ≤ outLen
  temp : 2048 < outLen → ∀ text ∈ texts, text.length < 2048

section Room

variable {text temp rest out : List UInt8} {sz : ℕ}

/-- The copy of what was printed. -/
theorem copy_temp (out : List UInt8) (sz : ℕ) (htext : 0 ∉ text)
    (htemp : temp = text ++ 0 :: rest) : (do
      let len ← strlen temp 0
      let out ← orFault .pastEnd (Buffer.memcpy out sz temp 0 len)
      return (out, sz + len)) =
      if sz + text.length ≤ out.length then
        returns (out.take sz ++ text ++ out.drop (sz + text.length), sz + text.length)
      else faults .pastEnd := by
  have hlen : strlen ([] ++ (text ++ 0 :: rest)) 0 = returns text.length := strlen_append htext
  rw [List.nil_append] at hlen
  have hle : 0 + text.length ≤ (text ++ 0 :: rest).length := by
    rw [List.length_append]
    omega
  rw [htemp, hlen, returns_bind, Buffer.memcpy, if_pos hle, List.drop_zero, List.take_left,
    Buffer.splice]
  split <;> rfl

theorem emptyTemp_eq : emptyTemp = [] ++ 0 :: List.replicate 2047 0 := List.replicate_succ

theorem length_emptyTemp : emptyTemp.length = 2048 := List.length_replicate

/-- A piece that fits into `temp`. -/
theorem putText_of_lt (htext : 0 ∉ text) (hout : 2048 ≤ out.length) (hlen : text.length < 2048) :
    putText (some text) out sz =
      if sz + text.length ≤ out.length then
        returns (out.take sz ++ text ++ out.drop (sz + text.length), sz + text.length)
      else faults .pastEnd := by
  have hprint : snprintf ([] ++ emptyTemp) 0 out.length text = _ :=
    snprintf_append (by omega) (by rwa [length_emptyTemp]) (by omega)
  rw [List.nil_append, List.nil_append] at hprint
  have hrc : ((text.length : ℕ) : ℤ) < 2048 := by omega
  rw [putText, hprint, returns_bind]
  dsimp only
  rw [check, if_pos hrc, returns_bind, pure_eq, returns_bind]
  exact copy_temp out sz htext rfl

/-- Without a piece nothing is put, as with an empty one. -/
theorem putText_none (hout : 2048 ≤ out.length) :
    putText none out sz = putText (some []) out sz := by
  rw [putText_of_lt List.not_mem_nil hout (by decide), putText, pure_eq, returns_bind]
  beta_reduce
  rw [copy_temp out sz List.not_mem_nil emptyTemp_eq]

theorem putText_getD (piece : Option (List UInt8)) (hout : 2048 ≤ out.length) :
    putText piece out sz = putText (some (piece.getD [])) out sz := by
  cases piece with
  | none => exact putText_none hout
  | some text => rfl

/-- A piece that is cut short in `temp`. -/
theorem putText_of_le (sz : ℕ) (htext : 0 ∉ text) (hout : out.length = 2048)
    (hlen : 2048 ≤ text.length) : putText (some text) out sz =
      if text.length < 2 ^ 31 then stops
      else if sz + 2047 ≤ out.length then
        returns (out.take sz ++ text.take 2047 ++ out.drop (sz + 2047), sz + 2047)
      else faults .pastEnd := by
  have hprint := snprintf_cut (by decide) hlen emptyTemp length_emptyTemp
  have htake : 0 ∉ text.take 2047 := fun h => htext (List.mem_of_mem_take h)
  have hcopied : (text.take 2047).length = 2047 := List.length_take_of_le (by omega)
  rw [putText, hout, hprint, returns_bind]
  dsimp only
  by_cases hint : text.length < 2 ^ 31
  · have hrc : ¬((text.length : ℕ) : ℤ) < 2048 := by omega
    rw [if_pos hint, if_pos hint, check, if_neg hrc]
    rfl
  · have htemp : text.take 2047 ++ [0] = text.take 2047 ++ 0 :: [] := rfl
    have hcopy := copy_temp out sz htake htemp
    rw [if_neg hint, if_neg hint, check, if_pos (by decide), returns_bind, pure_eq, returns_bind]
    rw [hcopied, hout] at hcopy
    exact hcopy

/-- A piece that does not fit into `temp`, with a larger buffer. -/
theorem putText_fault (hout : 2048 < out.length) (hlen : 2048 ≤ text.length) :
    putText (some text) out sz = faults .pastEnd := by
  have hprint : snprintf emptyTemp 0 out.length text = faults .pastEnd :=
    snprintf_fault (by rwa [length_emptyTemp]) (by rwa [length_emptyTemp])
  rw [putText, hprint]
  rfl

/-- There is room for what is put behind the pieces. -/
theorem safe_putEnd : (putEnd out sz).Safe ↔ sz + 2 ≤ out.length := by
  have hnewline : (ascii "\n").length = 1 := rfl
  by_cases hle : sz + 1 ≤ out.length
  · have hsplice : Buffer.splice out sz (ascii "\n") = some _ :=
      Buffer.splice_of_le (by rwa [hnewline])
    have hlen : (out.take sz ++ ascii "\n" ++ out.drop (sz + (ascii "\n").length)).length =
        out.length := Buffer.length_splice (by rwa [hnewline])
    rw [putEnd, hsplice, orFault, returns_bind]
    generalize out.take sz ++ ascii "\n" ++ out.drop (sz + (ascii "\n").length) = out' at hlen ⊢
    by_cases hlt : sz + 1 < out'.length
    · have hzero : 0 ∈ (out'.set (sz + 1) 0).drop 0 := List.mem_set hlt 0
      rw [Buffer.store_of_lt hlt, orFault, returns_bind, strlen, if_pos hzero, pure_eq,
        returns_bind, safe_check_bind]
      exact iff_of_true (fun _ => safe_returns _) (by omega)
    · rw [Buffer.store, if_neg hlt]
      exact iff_of_false not_safe_faults (by omega)
  · rw [putEnd, Buffer.splice, if_neg (by rwa [hnewline])]
    exact iff_of_false not_safe_faults (by omega)

theorem accepted_cons (h : ¬Refused text) (texts : List (List UInt8)) :
    accepted (text :: texts) = text :: accepted texts :=
  List.takeWhile_cons_of_pos (decide_eq_true h)

theorem accepted_cons_of_refused (h : Refused text) (texts : List (List UInt8)) :
    accepted (text :: texts) = [] :=
  List.takeWhile_cons_of_neg (by simpa using h)

/-- The room that pieces need from a place on, and the room in `temp`. -/
def Room (outLen sz : ℕ) (texts : List (List UInt8)) : Prop :=
  sz + (((accepted texts).map copied).sum + if accepted texts = texts then 2 else 0) ≤ outLen ∧
    (2048 < outLen → ∀ text ∈ texts, text.length < 2048)

/-- The room behind a piece that is not refused. -/
theorem room_cons {outLen : ℕ} {texts : List (List UInt8)} (h : ¬Refused text)
    (htemp : 2048 < outLen → text.length < 2048) :
    Room outLen sz (text :: texts) ↔ Room outLen (sz + copied text) texts := by
  rw [Room, Room, accepted_cons h, List.map_cons, List.sum_cons, List.forall_mem_cons]
  have hiff : text :: accepted texts = text :: texts ↔ accepted texts = texts :=
    List.cons_inj_right text
  simp only [hiff]
  constructor
  · rintro ⟨hle, hall⟩
    exact ⟨by omega, fun hlt => (hall hlt).2⟩
  · rintro ⟨hle, hall⟩
    exact ⟨by omega, fun hlt => ⟨htemp hlt, hall hlt⟩⟩

/-- A piece that is refused needs no room. -/
theorem room_cons_of_refused {outLen : ℕ} (texts : List (List UInt8)) (h : Refused text)
    (hout : outLen ≤ 2048) (hsz : sz ≤ outLen) : Room outLen sz (text :: texts) := by
  rw [Room, accepted_cons_of_refused h]
  refine ⟨?_, fun hlt => absurd hlt (Nat.not_lt.2 hout)⟩
  rw [if_neg (List.cons_ne_nil _ _).symm]
  exact hsz

/-- With a larger buffer there is no room for a piece that does not fit into `temp`. -/
theorem not_room_cons {outLen : ℕ} (texts : List (List UInt8)) (hout : 2048 < outLen)
    (hlen : 2048 ≤ text.length) : ¬Room outLen sz (text :: texts) := by
  rintro ⟨-, hall⟩
  exact absurd (hall hout _ List.mem_cons_self) (Nat.not_lt.2 hlen)

/-- A piece that is copied, and the pieces behind it. -/
theorem safe_putTexts_cons {texts : List (Option (List UInt8))} {piece : Option (List UInt8)}
    {s : List UInt8} (hpiece : ¬Refused (piece.getD [])) (hs : s.length = copied (piece.getD []))
    (htemp : 2048 < out.length → (piece.getD []).length < 2048)
    (hput : putText piece out sz = if sz + s.length ≤ out.length then
      returns (out.take sz ++ s ++ out.drop (sz + s.length), sz + s.length) else faults .pastEnd)
    (ih : ∀ {out' : List UInt8} {sz' : ℕ}, out'.length = out.length → sz' ≤ out'.length →
      ((do
        let (out, sz) ← putTexts texts (out', sz')
        putEnd out sz).Safe ↔ Room out'.length sz' (texts.map (·.getD [])))) :
    (do
      let (out, sz) ← putTexts (piece :: texts) (out, sz)
      putEnd out sz).Safe ↔ Room out.length sz ((piece :: texts).map (·.getD [])) := by
  rw [List.map_cons, room_cons hpiece htemp, ← hs, putTexts, List.foldlM_cons]
  dsimp only
  rw [hput]
  by_cases hle : sz + s.length ≤ out.length
  · have hlen := Buffer.length_splice hle
    rw [if_pos hle, returns_bind, ← hlen]
    exact ih hlen (by rwa [hlen])
  · rw [if_neg hle]
    refine iff_of_false not_safe_faults ?_
    rintro ⟨hroom, -⟩
    omega

/-- The pieces are put or refused in the buffer if and only if there is room for them. -/
theorem safe_putTexts_iff {texts : List (Option (List UInt8))}
    (htexts : ∀ text ∈ texts, 0 ∉ text.getD []) (hout : 2048 ≤ out.length)
    (hsz : sz ≤ out.length) : (do
      let (out, sz) ← putTexts texts (out, sz)
      putEnd out sz).Safe ↔ Room out.length sz (texts.map (·.getD [])) := by
  induction texts generalizing out sz with
  | nil =>
    rw [List.map_nil, putTexts, List.foldlM_nil, pure_eq, returns_bind]
    refine safe_putEnd.trans ?_
    simp [Room, accepted]
  | cons piece texts ih =>
    obtain ⟨htext, htexts⟩ := List.forall_mem_cons.1 htexts
    have hpiece : putText piece out sz = putText (some (piece.getD [])) out sz :=
      putText_getD piece hout
    have ih : ∀ {out' : List UInt8} {sz' : ℕ}, out'.length = out.length → sz' ≤ out'.length →
        ((do
          let (out, sz) ← putTexts texts (out', sz')
          putEnd out sz).Safe ↔ Room out'.length sz' (texts.map (·.getD []))) := by
      intro out' sz' hlen hsz'
      exact ih htexts (by rwa [hlen]) hsz'
    rcases Nat.lt_or_ge (piece.getD []).length 2048 with hlt | hge
    · have hcopied : (piece.getD []).length = copied (piece.getD []) := by
        rw [copied]
        omega
      have hnot : ¬Refused (piece.getD []) := fun h => Nat.not_lt.2 h.1 hlt
      exact safe_putTexts_cons hnot hcopied (fun _ => hlt)
        (hpiece.trans (putText_of_lt htext hout hlt)) ih
    · rcases Nat.lt_or_ge 2048 out.length with hlong | hshort
      · rw [putTexts, List.foldlM_cons]
        dsimp only
        rw [hpiece, putText_fault hlong hge]
        exact iff_of_false not_safe_faults (not_room_cons _ hlong hge)
      · have hput := hpiece.trans
          (putText_of_le sz htext (Nat.le_antisymm hshort hout) hge)
        by_cases hint : (piece.getD []).length < 2 ^ 31
        · rw [if_pos hint] at hput
          rw [putTexts, List.foldlM_cons]
          dsimp only
          rw [hput]
          exact iff_of_true safe_stops (room_cons_of_refused _ ⟨hge, hint⟩ hshort hsz)
        · rw [if_neg hint] at hput
          have hcut : ((piece.getD []).take 2047).length = 2047 :=
            List.length_take_of_le (by omega)
          have hcopied : ((piece.getD []).take 2047).length = copied (piece.getD []) := by
            rw [hcut, copied]
            omega
          refine safe_putTexts_cons (fun h => hint h.2) hcopied
            (fun hlt => absurd hlt (Nat.not_lt.2 hshort)) ?_ ih
          rw [hcut]
          exact hput

end Room

/-! ## The function -/

section Texts

theorem zero_notMem_sliceHead (dl : UlDlSliceConf) (tstamp : Int64) :
    0 ∉ sliceHead dl tstamp := by
  rw [sliceHead]
  split
  · simp +decide only [List.mem_append, zero_notMem_int, zero_notMem_str, or_self]
  · simp +decide only [List.mem_append, zero_notMem_int, u32, zero_notMem_dec, or_self]

theorem zero_notMem_sliceCommon (i : ℕ) (s : FrSlice) (name : List UInt8) (hname : 0 ∉ name) :
    0 ∉ sliceCommon i s name := by
  simp +decide only [sliceCommon, List.mem_append, u32, word, zero_notMem_dec, zero_notMem_str,
    zero_notMem_int, hname, or_self]

theorem zero_notMem_sliceText (i : ℕ) (s : FrSlice) : 0 ∉ (sliceText i s).getD [] := by
  have hstatic := zero_notMem_sliceCommon i s (ascii "static") (by decide)
  have hnvs := zero_notMem_sliceCommon i s (ascii "nvs") (by decide)
  have hedf := zero_notMem_sliceCommon i s (ascii "edf") (by decide)
  rw [sliceText]
  split
  · simp +decide only [Option.getD_some, List.mem_append, hstatic, zero_notMem_dec, or_self]
  · simp +decide only [Option.getD_some, List.mem_append, hnvs, zero_notMem_fixed, or_self]
  · simp +decide only [Option.getD_some, List.mem_append, hnvs, zero_notMem_fixed, or_self]
  · exact List.not_mem_nil
  · simp +decide only [Option.getD_some, List.mem_append, hedf, zero_notMem_dec, or_self]

theorem zero_notMem_ueSliceHead (ues : List UeSliceAssoc) : 0 ∉ ueSliceHead ues := by
  simp +decide only [ueSliceHead, List.mem_append, u32, zero_notMem_dec, or_self]

theorem zero_notMem_ueSliceText (i : ℕ) (u : UeSliceAssoc) : 0 ∉ ueSliceText i u := by
  simp +decide only [ueSliceText, List.mem_append, u32, word, zero_notMem_dec, zero_notMem_hex,
    zero_notMem_int, or_self]

theorem zero_notMem_headTexts {i : ℕ} {head : List UInt8} (hhead : 0 ∉ head) :
    ∀ text ∈ headTexts i head, 0 ∉ text.getD [] := by
  intro text htext
  rw [headTexts] at htext
  split at htext
  · rw [List.mem_singleton.1 htext]
    exact hhead
  · cases htext

theorem zero_notMem_sliceTexts (slice : SliceIndMsg) (tstamp : Int64) :
    ∀ text ∈ sliceTexts slice tstamp, 0 ∉ text.getD [] := by
  have hhead := zero_notMem_sliceHead slice.sliceConf.dl tstamp
  intro text htext
  rw [sliceTexts, List.mem_append, List.mem_append, List.mem_flatMap, List.mem_flatMap] at htext
  rcases htext with (htext | ⟨⟨s, i⟩, -, htext⟩) | ⟨⟨u, i⟩, -, htext⟩
  · exact zero_notMem_headTexts hhead text htext
  · rcases List.mem_append.1 htext with htext | htext
    · exact zero_notMem_headTexts hhead text htext
    · rw [List.mem_singleton.1 htext]
      exact zero_notMem_sliceText i s
  · rcases List.mem_append.1 htext with htext | htext
    · exact zero_notMem_headTexts (zero_notMem_ueSliceHead _) text htext
    · rw [List.mem_singleton.1 htext]
      exact zero_notMem_ueSliceText i u

end Texts

/-- `to_string_slice` writes to its arrays only, if and only if there is room in the buffer for the
pieces up to the first one that is refused. -/
theorem safe_toStringSlice_iff (slice : SliceIndMsg) (tstamp : Int64) (out : List UInt8) :
    (toStringSlice slice tstamp out).Safe ↔
      (2048 ≤ out.length →
        FitsBuffer out.length ((sliceTexts slice tstamp).map (·.getD []))) := by
  rw [toStringSlice_eq, safe_check_bind]
  refine forall_congr' fun hout => ?_
  refine (safe_putTexts_iff (zero_notMem_sliceTexts slice tstamp) hout (Nat.zero_le _)).trans ?_
  rw [Room, Nat.zero_add]
  constructor
  · rintro ⟨hroom, htemp⟩
    exact ⟨hroom, htemp⟩
  · intro h
    exact ⟨h.room, h.temp⟩

end FlexRic
