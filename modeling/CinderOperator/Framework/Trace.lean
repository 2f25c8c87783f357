import CinderOperator.Framework.Triple

/-!
# Runs with the controller's calls recorded

`Runs` says where a run ends.  Some properties are about every call on the way instead: what each
of the controller's own writes does to the stored object, whatever others did just before it.
`Traced c p a t c'` is a run of `p` whose calls are listed in `t`, in order: each `Act` is a
call, the cluster it met (after the steps of others) and the cluster it left.  Forgetting the
list gives the run back (`Traced.runs`), and every run has its list (`Runs.traced`), so the two
describe the same executions.

`Obeys P m Q R` is `Triple` with one more part: every call of a run of `m` from `P` is an `R`
step.  Its rules are those of `Triple`; the call rule is where `R` is checked, from the
assertion the proof carries to that call.

`CallsAtMost m n` bounds the length of the list instead: every run of `m` makes at most `n`
calls, whatever the replies and whatever others do.  Its rules count one per call and add the
counts of a sequence, so a bound is put together along the code from one per helper.
-/

namespace CinderOperator

/-- One call of the controller: what it asked, the cluster it met and the cluster it left. -/
structure Act where
  op : Call
  src : Cluster
  dst : Cluster

/-- A run of `p` from `c` to `c'` with result `a`, whose calls were `t`, in order. -/
inductive Traced {α : Type} : Cluster → Prog α → α → List Act → Cluster → Prop
  | pure (c : Cluster) (a : α) : Traced c (.pure a) a [] c
  | call {c c₁ c₂ c' : Cluster} {op : Call} {k : op.Reply → Prog α} {r : op.Reply} {a : α}
      {t : List Act} :
      Interference c c₁ → op.Step c₁ r c₂ → Traced c₂ (k r) a t c' →
        Traced c (.call op k) a (⟨op, c₁, c₂⟩ :: t) c'

section

variable {α β : Type} {c c' : Cluster} {p : Prog α} {a : α} {t : List Act}

/-- Forgetting the calls of a traced run leaves a run. -/
theorem Traced.runs (h : Traced c p a t c') : Runs c p a c' := by
  induction h with
  | pure => exact .pure _ _
  | call hi hs _ ih => exact .call hi hs ih

/-- Every run has the list of its calls. -/
theorem Runs.traced (h : Runs c p a c') : ∃ t, Traced c p a t c' := by
  induction h with
  | pure c a => exact ⟨[], .pure c a⟩
  | call hi hs _ ih =>
    obtain ⟨t, ht⟩ := ih
    exact ⟨_, .call hi hs ht⟩

/-- A traced run of a sequence splits where its first part ends, and so does its list. -/
theorem Traced.of_bind {f : α → Prog β} {b : β} (h : Traced c (p.bind f) b t c') :
    ∃ a c₁ t₁ t₂, t = t₁ ++ t₂ ∧ Traced c p a t₁ c₁ ∧ Traced c₁ (f a) b t₂ c' := by
  induction p generalizing c t with
  | pure a => exact ⟨a, c, [], t, rfl, .pure c a, h⟩
  | call op k ih =>
    cases h with
    | call hi hs hk =>
      obtain ⟨a, c₁, t₁, t₂, rfl, h₁, h₂⟩ := ih _ hk
      exact ⟨a, c₁, _ :: t₁, t₂, rfl, .call hi hs h₁, h₂⟩

/-- A traced run of one call: others act, then the call makes one step. -/
theorem Traced.of_send {o : Call} {r : o.Reply} (h : Traced c (send o) r t c') :
    ∃ c₁, Interference c c₁ ∧ o.Step c₁ r c' ∧ t = [⟨o, c₁, c'⟩] := by
  cases h with
  | call hi hs hk =>
    cases hk
    exact ⟨_, hi, hs, rfl⟩

end

/-! ## A program logic for every call -/

/-- Every run of `m` from `P` ends in `Q`, and every call it makes is an `R` step. -/
def Obeys {α : Type} (P : CinderAPI → Cluster → Prop) (m : Ctl α)
    (Q : α → CinderAPI → Cluster → Prop) (R : Act → Prop) : Prop :=
  ∀ ⦃i c a i' c' t⦄, P i c → Traced c (m.run i) (a, i') t c' → Q a i' c' ∧ ∀ s ∈ t, R s

namespace Obeys

variable {α β : Type} {P P' : CinderAPI → Cluster → Prop} {Q Q' : α → CinderAPI → Cluster → Prop}
  {R : Act → Prop}

theorem mono {m : Ctl α} (h : Obeys P m Q R) (hp : ∀ i c, P' i c → P i c)
    (hq : ∀ a i c, Q a i c → Q' a i c) : Obeys P' m Q' R :=
  fun _ _ _ _ _ _ hpc hr => (h (hp _ _ hpc) hr).imp_left (hq _ _ _)

/-- `Obeys` forgets to `Triple`. -/
theorem triple {m : Ctl α} (h : Obeys P m Q R) : Triple P m Q := fun _ _ _ _ _ hpc hr =>
  let ⟨_, ht⟩ := Runs.traced hr
  (h hpc ht).1

theorem pure {a : α} (h : ∀ i c, P i c → Q a i c) : Obeys P (Pure.pure a) Q R := by
  intro i c b i' c' t hpc hr
  cases hr
  exact ⟨h _ _ hpc, fun _ h => nomatch h⟩

theorem bind {M : α → CinderAPI → Cluster → Prop} {Q : β → CinderAPI → Cluster → Prop}
    {m : Ctl α} {f : α → Ctl β} (hm : Obeys P m M R) (hf : ∀ a, Obeys (M a) (f a) Q R) :
    Obeys P (m >>= f) Q R := by
  intro i c b i' c' t hpc hr
  obtain ⟨⟨a, i₁⟩, c₁, t₁, t₂, rfl, h₁, h₂⟩ := Traced.of_bind hr
  obtain ⟨hM, hR₁⟩ := hm hpc h₁
  obtain ⟨hQ, hR₂⟩ := hf a hM h₂
  exact ⟨hQ, fun s hs => (List.mem_append.mp hs).elim (hR₁ s) (hR₂ s)⟩

/-- An invariant of both parts is one of the sequence. -/
theorem bind_inv {m : Ctl α} {f : α → Ctl β} (hm : Obeys P m (fun _ => P) R)
    (hf : ∀ a, Obeys P (f a) (fun _ => P) R) : Obeys P (m >>= f) (fun _ => P) R :=
  bind hm hf

theorem get {Q : CinderAPI → CinderAPI → Cluster → Prop} (h : ∀ i c, P i c → Q i i c) :
    Obeys P (get : Ctl CinderAPI) Q R := by
  intro i c b i' c' t hpc hr
  cases hr
  exact ⟨h _ _ hpc, fun _ h => nomatch h⟩

theorem set {s : CinderAPI} {Q : PUnit → CinderAPI → Cluster → Prop}
    (h : ∀ i c, P i c → Q () s c) : Obeys P (set s : Ctl PUnit) Q R := by
  intro i c b i' c' t hpc hr
  cases hr
  exact ⟨h _ _ hpc, fun _ h => nomatch h⟩

theorem modify {f : CinderAPI → CinderAPI} {Q : PUnit → CinderAPI → Cluster → Prop}
    (h : ∀ i c, P i c → Q () (f i) c) : Obeys P (modify f : Ctl PUnit) Q R := by
  intro i c b i' c' t hpc hr
  cases hr
  exact ⟨h _ _ hpc, fun _ h => nomatch h⟩

/-- **The call rule.**  A call is an `R` step and ends in `Q` if every step its contract allows,
after any steps of others, is one and does. -/
theorem send {o : Call} {Q : o.Reply → CinderAPI → Cluster → Prop}
    (h : ∀ i c c₁ r c₂, P i c → Interference c c₁ → o.Step c₁ r c₂ → R ⟨o, c₁, c₂⟩ ∧ Q r i c₂) :
    Obeys P (liftM (CinderOperator.send o) : Ctl o.Reply) Q R := by
  intro i c b i' c' t hpc hr
  cases hr with
  | call hi hs hk =>
    cases hk
    obtain ⟨hR, hQ⟩ := h _ _ _ _ _ hpc hi hs
    exact ⟨hQ, fun s hs => (List.mem_singleton.mp hs) ▸ hR⟩

end Obeys

/-! ## Counting calls -/

/-- Every run of `p` makes at most `n` calls. -/
def Prog.CallsAtMost {α : Type} (p : Prog α) (n : Nat) : Prop :=
  ∀ ⦃c a t c'⦄, Traced c p a t c' → t.length ≤ n

/-- Every run of `m`, from every local instance, makes at most `n` calls. -/
def CallsAtMost {α : Type} (m : Ctl α) (n : Nat) : Prop := ∀ i, (m.run i).CallsAtMost n

namespace Prog.CallsAtMost

variable {α β : Type} {n k : Nat}

theorem pure {a : α} : (Pure.pure a : Prog α).CallsAtMost n := by
  intro c b t c' h
  cases h
  exact Nat.zero_le n

theorem bind {p : Prog α} {f : α → Prog β} (hp : p.CallsAtMost k) (hf : ∀ a, (f a).CallsAtMost n) :
    (p >>= f).CallsAtMost (n + k) := by
  intro c b t c' h
  obtain ⟨a, c₁, t₁, t₂, rfl, h₁, h₂⟩ := Traced.of_bind h
  have := hp h₁
  have := hf a h₂
  rw [List.length_append]
  omega

/-- One call, then at most `n` more. -/
theorem send_bind {o : Call} {f : o.Reply → Prog β} (hf : ∀ r, (f r).CallsAtMost n) :
    (send o >>= f).CallsAtMost (n + 1) :=
  bind (fun _ _ _ _ h => (Traced.of_send h).elim fun _ h => h.2.2 ▸ le_rfl) hf

end Prog.CallsAtMost

namespace CallsAtMost

variable {α β : Type} {n k : Nat}

theorem mono {m : Ctl α} (h : CallsAtMost m n) (hn : n ≤ k) : CallsAtMost m k :=
  fun i _ _ _ _ hr => (h i hr).trans hn

theorem pure {a : α} : CallsAtMost (Pure.pure a : Ctl α) n := fun _ => Prog.CallsAtMost.pure

theorem bind {m : Ctl α} {f : α → Ctl β} (hm : CallsAtMost m k) (hf : ∀ a, CallsAtMost (f a) n) :
    CallsAtMost (m >>= f) (n + k) :=
  fun i => Prog.CallsAtMost.bind (hm i) fun p => hf p.1 p.2

theorem get : CallsAtMost (get : Ctl CinderAPI) n := fun _ => Prog.CallsAtMost.pure

theorem set {s : CinderAPI} : CallsAtMost (set s : Ctl PUnit) n := fun _ => Prog.CallsAtMost.pure

theorem modify {f : CinderAPI → CinderAPI} : CallsAtMost (modify f : Ctl PUnit) n :=
  fun _ => Prog.CallsAtMost.pure

theorem send {o : Call} : CallsAtMost (liftM (CinderOperator.send o) : Ctl o.Reply) (n + 1) :=
  fun _ => Prog.CallsAtMost.send_bind fun _ => Prog.CallsAtMost.pure

/-- One call, then at most `n` more. -/
theorem send_bind {o : Call} {f : o.Reply → Ctl β} (hf : ∀ r, CallsAtMost (f r) n) :
    CallsAtMost (liftM (CinderOperator.send o) >>= f) (n + 1) :=
  bind (send (n := 0)) hf

end CallsAtMost

end CinderOperator
