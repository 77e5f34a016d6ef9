import Mathlib.Data.List.Basic
import Mathlib.Data.List.Perm.Basic

/-!
# Channels that deliver in order

A message is sent on one of several channels and taken out of it later. On one channel the
messages come out in the order they went in; between the channels there is no order. The channels
also record what was taken out, which no program reads: with it, what was ever sent on a channel
does not change when a message is taken.
-/

namespace FlexRic

universe u v

/-- The messages on some channels. -/
structure Channels (C : Type u) (M : Type v) : Type (max u v) where
  /-- the messages taken out, the oldest first -/
  taken : List (C × M)
  /-- the messages in flight, the oldest first -/
  flight : List (C × M)

namespace Channels

variable {C : Type u} {M : Type v}

/-- The messages that were sent so far. -/
def all (s : Channels C M) : List (C × M) := s.taken ++ s.flight

/-- A message is sent. -/
def send (s : Channels C M) (c : C) (m : M) : Channels C M :=
  { s with flight := s.flight ++ [(c, m)] }

@[simp] theorem taken_send (s : Channels C M) (c : C) (m : M) : (s.send c m).taken = s.taken := rfl

@[simp] theorem flight_send (s : Channels C M) (c : C) (m : M) :
    (s.send c m).flight = s.flight ++ [(c, m)] := rfl

@[simp] theorem all_send (s : Channels C M) (c : C) (m : M) :
    (s.send c m).all = s.all ++ [(c, m)] := by
  rw [all, all, taken_send, flight_send, List.append_assoc]

theorem mem_all_of_taken {s : Channels C M} {p : C × M} (h : p ∈ s.taken) : p ∈ s.all :=
  List.mem_append_left _ h

theorem mem_all_of_flight {s : Channels C M} {p : C × M} (h : p ∈ s.flight) : p ∈ s.all :=
  List.mem_append_right _ h

/-- What was taken stays the same, when at most one message is sent. -/
@[simp] theorem taken_elim_send (s : Channels C M) (o : Option M) (c : C) :
    (o.elim s (s.send c)).taken = s.taken := by
  cases o <;> rfl

/-- What the messages of a list weigh together. -/
def weigh (f : M → ℕ) (l : List (C × M)) : ℕ := l.foldr (fun p n => f p.2 + n) 0

@[simp] theorem weigh_cons (f : M → ℕ) (p : C × M) (l : List (C × M)) :
    weigh f (p :: l) = f p.2 + weigh f l := rfl

theorem weigh_append (f : M → ℕ) (l l' : List (C × M)) :
    weigh f (l ++ l') = weigh f l + weigh f l' := by
  induction l with
  | nil => exact (Nat.zero_add _).symm
  | cons p l ih => rw [List.cons_append, weigh_cons, weigh_cons, ih, Nat.add_assoc]

/-- What the messages in flight weigh together. -/
def weight (f : M → ℕ) (s : Channels C M) : ℕ := weigh f s.flight

theorem weight_send (f : M → ℕ) (s : Channels C M) (c : C) (m : M) :
    (s.send c m).weight f = s.weight f + f m := by
  rw [weight, weight, flight_send, weigh_append]
  rfl

variable [DecidableEq C]

/-- The oldest message in flight on a channel is taken out. -/
def receive (s : Channels C M) (c : C) : Option (M × Channels C M) :=
  (s.flight.find? fun p => p.1 = c).map fun p =>
    (p.2, ⟨s.taken ++ [p], s.flight.eraseP fun p => p.1 = c⟩)

/-- The messages of a list that are on a channel. -/
def on (c : C) (l : List (C × M)) : List M := (l.filter fun p => p.1 = c).map Prod.snd

/-- What was sent on a channel, in this order. -/
def sent (s : Channels C M) (c : C) : List M := on c s.all

@[simp] theorem on_append (c : C) (l l' : List (C × M)) : on c (l ++ l') = on c l ++ on c l' := by
  rw [on, List.filter_append, List.map_append, on, on]

@[simp] theorem on_cons_self (c : C) (m : M) (l : List (C × M)) :
    on c ((c, m) :: l) = m :: on c l := by
  rw [on, List.filter_cons_of_pos (by simp), List.map_cons, on]

@[simp] theorem on_cons_of_ne {c d : C} (h : d ≠ c) (m : M) (l : List (C × M)) :
    on c ((d, m) :: l) = on c l := by
  rw [on, List.filter_cons_of_neg (by simpa using h), on]

@[simp] theorem on_concat_self (c : C) (m : M) (l : List (C × M)) :
    on c (l ++ [(c, m)]) = on c l ++ [m] := by
  rw [on_append, on_cons_self]
  rfl

@[simp] theorem on_concat_of_ne {c d : C} (h : d ≠ c) (m : M) (l : List (C × M)) :
    on c (l ++ [(d, m)]) = on c l := by
  rw [on_append, on_cons_of_ne h]
  exact List.append_nil _

theorem mem_on {c : C} {m : M} {l : List (C × M)} : m ∈ on c l ↔ (c, m) ∈ l := by
  rw [on, List.mem_map]
  constructor
  · rintro ⟨⟨d, m⟩, hmem, rfl⟩
    obtain ⟨hmem, hd⟩ := List.mem_filter.1 hmem
    exact of_decide_eq_true hd ▸ hmem
  · exact fun hmem => ⟨(c, m), List.mem_filter.2 ⟨hmem, decide_eq_true rfl⟩, rfl⟩

/-- What the messages of a list have that only those of one channel have. -/
theorem filterMap_on {α : Type*} (f : M → Option α) {c : C} {l : List (C × M)}
    (h : ∀ p ∈ l, ∀ a, f p.2 = some a → p.1 = c) :
    (l.filterMap fun p => f p.2) = (on c l).filterMap f := by
  induction l with
  | nil => rfl
  | cons p l ih =>
    have ih := ih fun q hq => h q (List.mem_cons_of_mem _ hq)
    obtain ⟨d, m⟩ := p
    by_cases hc : d = c
    · subst hc
      rw [on_cons_self, List.filterMap_cons, List.filterMap_cons, ih]
    · have hnone : f m = none :=
        Option.eq_none_iff_forall_ne_some.2 fun a ha => hc (h _ List.mem_cons_self a ha)
      rw [on_cons_of_ne hc, ← ih]
      exact List.filterMap_cons_none hnone

/-- What was sent on a channel was taken or is in flight. -/
theorem sent_eq (s : Channels C M) (c : C) : s.sent c = on c s.taken ++ on c s.flight :=
  on_append c s.taken s.flight

theorem mem_sent {s : Channels C M} {c : C} {m : M} : m ∈ s.sent c ↔ (c, m) ∈ s.all := mem_on

/-- What holds between the messages of each channel in their order holds between all messages of
the same channel. -/
theorem pairwise_of_on {R : M → M → Prop} {l : List (C × M)} (h : ∀ c, (on c l).Pairwise R) :
    l.Pairwise fun p q => p.1 = q.1 → R p.2 q.2 := by
  induction l with
  | nil => exact .nil
  | cons p l ih =>
    refine List.pairwise_cons.2 ⟨?_, ih fun c => ?_⟩
    · rintro ⟨c, m⟩ hmem rfl
      have hp := h p.1
      rw [on_cons_self p.1 p.2] at hp
      exact (List.pairwise_cons.1 hp).1 m (mem_on.2 hmem)
    · refine (h c).sublist ?_
      exact ((List.sublist_cons_self p l).filter _).map _

@[simp] theorem sent_send_self (s : Channels C M) (c : C) (m : M) :
    (s.send c m).sent c = s.sent c ++ [m] := by
  rw [sent, all_send, on_concat_self, sent]

@[simp] theorem sent_send_of_ne (s : Channels C M) {c d : C} (h : d ≠ c) (m : M) :
    (s.send d m).sent c = s.sent c := by
  rw [sent, all_send, on_concat_of_ne h, sent]

/-- What was sent, when at most one message is. -/
theorem sent_elim_send (s : Channels C M) (o : Option M) (c d : C) :
    (o.elim s (s.send c)).sent d = s.sent d ++ if c = d then o.toList else [] := by
  cases o with
  | none => exact (List.append_nil _).symm.trans (congrArg (_ ++ ·) (ite_self []).symm)
  | some m =>
    by_cases h : c = d
    · subst h
      rw [if_pos rfl]
      exact sent_send_self s c m
    · rw [if_neg h, List.append_nil]
      exact sent_send_of_ne s h m

variable {s t : Channels C M} {c d : C} {m : M}

/-- Where the message that is taken out stood. -/
theorem receive_eq_some (h : s.receive c = some (m, t)) :
    ∃ before after, s.flight = before ++ (c, m) :: after ∧ (∀ p ∈ before, p.1 ≠ c) ∧
      t = ⟨s.taken ++ [(c, m)], before ++ after⟩ := by
  obtain ⟨p, hfind, heq⟩ := Option.map_eq_some_iff.1 h
  cases heq
  obtain ⟨hp, before, after, hflight, hbefore⟩ := List.find?_eq_some_iff_append.1 hfind
  have hc : p.1 = c := of_decide_eq_true hp
  have hne : ∀ q ∈ before, ¬decide (q.1 = c) = true := by simpa using hbefore
  subst hc
  refine ⟨before, after, hflight, fun q hq heq => hne q hq (decide_eq_true heq), ?_⟩
  rw [hflight, List.eraseP_append_right _ hne, List.eraseP_cons_of_pos (by simp)]

theorem taken_of_receive (h : s.receive c = some (m, t)) : t.taken = s.taken ++ [(c, m)] := by
  obtain ⟨before, after, -, -, rfl⟩ := receive_eq_some h
  rfl

theorem on_taken_of_receive (h : s.receive c = some (m, t)) (d : C) :
    on d t.taken = on d s.taken ++ if c = d then [m] else [] := by
  rw [taken_of_receive h]
  by_cases hd : c = d
  · subst hd
    rw [on_concat_self, if_pos rfl]
  · rw [on_concat_of_ne hd, if_neg hd, List.append_nil]

theorem mem_taken_of_receive (h : s.receive c = some (m, t)) : (c, m) ∈ t.taken := by
  rw [taken_of_receive h]
  exact List.mem_append_right _ (List.mem_singleton_self _)

theorem taken_subset_of_receive (h : s.receive c = some (m, t)) : ∀ p ∈ s.taken, p ∈ t.taken := by
  rw [taken_of_receive h]
  exact fun p hp => List.mem_append_left _ hp

theorem mem_flight_of_receive (h : s.receive c = some (m, t)) : (c, m) ∈ s.flight := by
  obtain ⟨before, after, hflight, -⟩ := receive_eq_some h
  rw [hflight]
  exact List.mem_append_right _ List.mem_cons_self

/-- The message leaves the flight, and the others stay. -/
theorem flight_perm_of_receive (h : s.receive c = some (m, t)) :
    s.flight.Perm ((c, m) :: t.flight) := by
  obtain ⟨before, after, hflight, -, rfl⟩ := receive_eq_some h
  rw [hflight]
  exact List.perm_middle

theorem weight_of_receive {f : M → ℕ} (h : s.receive c = some (m, t)) :
    s.weight f = f m + t.weight f := by
  obtain ⟨before, after, hflight, -, rfl⟩ := receive_eq_some h
  rw [weight, weight, hflight, weigh_append, weigh_append, weigh_cons, Nat.add_left_comm]

theorem all_perm_of_receive (h : s.receive c = some (m, t)) : t.all.Perm s.all := by
  rw [all, all, taken_of_receive h, List.append_assoc]
  exact (flight_perm_of_receive h).symm.append_left _

/-- The message was the oldest one of its channel in flight. -/
theorem on_of_receive (h : s.receive c = some (m, t)) : on c s.flight = m :: on c t.flight := by
  obtain ⟨before, after, hflight, hbefore, rfl⟩ := receive_eq_some h
  have hnil : on c before = [] := by
    rw [on, List.filter_eq_nil_iff.2 fun p hp => by simpa using hbefore p hp, List.map_nil]
  rw [hflight, on_append, on_append, hnil, on_cons_self]
  rfl

theorem on_of_receive_of_ne (h : s.receive c = some (m, t)) (hd : c ≠ d) :
    on d s.flight = on d t.flight := by
  obtain ⟨before, after, hflight, -, rfl⟩ := receive_eq_some h
  rw [hflight, on_append, on_append, on_cons_of_ne hd]

/-- Taking a message out changes nothing of what was sent. -/
theorem sent_of_receive (h : s.receive c = some (m, t)) (d : C) : t.sent d = s.sent d := by
  rw [sent, sent, all, all, on_append, on_append, taken_of_receive h, on_append, List.append_assoc]
  by_cases hd : c = d
  · subst hd
    rw [on_of_receive h, on_cons_self]
    rfl
  · rw [on_of_receive_of_ne h hd, on_cons_of_ne hd]
    rfl

/-- A channel with a message in flight has an oldest one. -/
theorem exists_receive (h : (c, m) ∈ s.flight) : ∃ m' t, s.receive c = some (m', t) := by
  have hfind : (s.flight.find? fun p => p.1 = c).isSome :=
    List.find?_isSome.2 ⟨(c, m), h, decide_eq_true rfl⟩
  obtain ⟨p, hp⟩ := Option.isSome_iff_exists.1 hfind
  exact ⟨_, _, Option.map_eq_some_iff.2 ⟨p, hp, rfl⟩⟩

end Channels

end FlexRic
