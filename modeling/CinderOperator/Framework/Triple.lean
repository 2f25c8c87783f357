import CinderOperator.Framework.Cluster

/-!
# A program logic for reconciler code

`Triple P m Q` is partial correctness of a `Ctl` program: from a local `instance` and a cluster
satisfying `P`, every run of `m` (with whatever replies the collaborators give and whatever the
user does between calls) ends with a result, instance and cluster satisfying `Q`.  The rules
below are proved once from `Runs`; the controller's proofs use them by name and never unfold a
run.

`Stable J` says that no step of others breaks the cluster predicate `J`; every assertion the
controller's proofs carry across a call is stable, which is what lets a call's rule ignore the
interference before it.

Most of what the reconciler does keeps a cluster predicate whatever the local instance is.
`Prog.Keeps J p` says so of a program and `Keeps J m` of a `Ctl` program from every instance;
their rules let a proof walk the code and stop only at the calls that matter.
-/

namespace CinderOperator

/-- Every run of `m` from `P` ends in `Q`. -/
def Triple {α : Type} (P : CinderAPI → Cluster → Prop) (m : Ctl α)
    (Q : α → CinderAPI → Cluster → Prop) : Prop :=
  ∀ ⦃i c a i' c'⦄, P i c → Runs c (m.run i) (a, i') c' → Q a i' c'

/-- A cluster predicate that no step of others breaks. -/
def Stable (J : Cluster → Prop) : Prop := ∀ ⦃c c'⦄, UserStep c c' → J c → J c'

theorem Stable.interference {J : Cluster → Prop} (hJ : Stable J) {c c' : Cluster}
    (h : Interference c c') (hc : J c) : J c' := by
  induction h with
  | refl => exact hc
  | tail _ hs ih => exact hJ hs ih

namespace Triple

variable {α β : Type} {P R : CinderAPI → Cluster → Prop} {Q S : α → CinderAPI → Cluster → Prop}

theorem mono {m : Ctl α} (h : Triple P m Q) (hp : ∀ i c, R i c → P i c)
    (hq : ∀ a i c, Q a i c → S a i c) : Triple R m S :=
  fun _ _ _ _ _ hpc hr => hq _ _ _ (h (hp _ _ hpc) hr)

/-- Every run ends somewhere. -/
theorem trivial {m : Ctl α} : Triple P m fun _ _ _ => True := fun _ _ _ _ _ _ _ => True.intro

theorem pure {a : α} (h : ∀ i c, P i c → Q a i c) : Triple P (Pure.pure a) Q := by
  intro i c b i' c' hpc hr
  cases hr
  exact h _ _ hpc

theorem bind {M : α → CinderAPI → Cluster → Prop} {Q : β → CinderAPI → Cluster → Prop}
    {m : Ctl α} {f : α → Ctl β} (hm : Triple P m M) (hf : ∀ a, Triple (M a) (f a) Q) :
    Triple P (m >>= f) Q := by
  intro i c b i' c' hpc hr
  obtain ⟨⟨a, i₁⟩, c₁, h₁, h₂⟩ := Runs.of_bind hr
  exact hf a (hm hpc h₁) h₂

/-- Nothing known before a step, nothing needed after it. -/
theorem bind_true {Q : β → CinderAPI → Cluster → Prop} {m : Ctl α} {f : α → Ctl β}
    (hf : ∀ a, Triple (fun _ _ => True) (f a) Q) : Triple (fun _ _ => True) (m >>= f) Q :=
  bind trivial hf

theorem get {Q : CinderAPI → CinderAPI → Cluster → Prop} (h : ∀ i c, P i c → Q i i c) :
    Triple P (get : Ctl CinderAPI) Q := by
  intro i c b i' c' hpc hr
  cases hr
  exact h _ _ hpc

theorem set {s : CinderAPI} {Q : PUnit → CinderAPI → Cluster → Prop}
    (h : ∀ i c, P i c → Q () s c) : Triple P (set s : Ctl PUnit) Q := by
  intro i c b i' c' hpc hr
  cases hr
  exact h _ _ hpc

theorem modify {f : CinderAPI → CinderAPI} {Q : PUnit → CinderAPI → Cluster → Prop}
    (h : ∀ i c, P i c → Q () (f i) c) : Triple P (modify f : Ctl PUnit) Q := by
  intro i c b i' c' hpc hr
  cases hr
  exact h _ _ hpc

/-- **The call rule.**  A call ends in `Q` if every reply its contract allows, after any steps of
others, does. -/
theorem send {o : Call} {Q : o.Reply → CinderAPI → Cluster → Prop}
    (h : ∀ i c c₁ r c₂, P i c → Interference c c₁ → o.Step c₁ r c₂ → Q r i c₂) :
    Triple P (liftM (CinderOperator.send o) : Ctl o.Reply) Q := by
  intro i c b i' c' hpc hr
  cases hr with
  | call hi hs hk =>
    cases hk
    exact h _ _ _ _ _ hpc hi hs

end Triple

/-! ## Predicates of the local instance alone

Calls never touch the local instance, so what holds of it survives every call and every read;
only `modify` and `set` can break it. -/

section Instance

variable {α : Type} {A : CinderAPI → Prop}

theorem triple_get_inst : Triple (fun i _ => A i) (get : Ctl CinderAPI) fun _ i _ => A i :=
  Triple.get fun _ _ h => h

theorem triple_send_inst {o : Call} :
    Triple (fun i _ => A i) (liftM (send o) : Ctl o.Reply) fun _ i _ => A i :=
  Triple.send fun _ _ _ _ _ h _ _ => h

theorem triple_modify_inst {f : CinderAPI → CinderAPI} (h : ∀ i, A i → A (f i)) :
    Triple (fun i _ => A i) (modify f : Ctl PUnit) fun _ i _ => A i :=
  Triple.modify fun i _ => h i

theorem triple_pure_inst {a : α} : Triple (fun i _ => A i) (pure a : Ctl α) fun _ i _ => A i :=
  Triple.pure fun _ _ h => h

end Instance

/-! ## Runs that exist

`Can c m i Q` is the dual of `Triple`: some run of `m` from `i` and `c` in which nobody else
acts and every call succeeds (`SoloRuns`) ends in `Q`.  Its rules need no intermediate assertion:
`Can.bind` asks for a run of the rest from wherever the first part can end. -/

/-- Some solo run of `m` from the instance `i` and the cluster `c` ends in `Q`. -/
def Can {α : Type} (c : Cluster) (m : Ctl α) (i : CinderAPI)
    (Q : α → CinderAPI → Cluster → Prop) : Prop :=
  ∃ a i' c', SoloRuns c (m.run i) (a, i') c' ∧ Q a i' c'

namespace Can

variable {α β : Type} {c : Cluster} {i : CinderAPI} {Q S : α → CinderAPI → Cluster → Prop}

theorem mono {m : Ctl α} (h : Can c m i Q) (hq : ∀ a i c, Q a i c → S a i c) : Can c m i S :=
  let ⟨a, i', c', hr, hQ⟩ := h
  ⟨a, i', c', hr, hq _ _ _ hQ⟩

theorem pure {a : α} (h : Q a i c) : Can c (Pure.pure a) i Q := ⟨a, i, c, .pure c (a, i), h⟩

theorem bind {Q : β → CinderAPI → Cluster → Prop} {m : Ctl α} {f : α → Ctl β}
    (h : Can c m i fun a i' c' => Can c' (f a) i' Q) : Can c (m >>= f) i Q :=
  let ⟨_, _, _, h₁, _, _, _, h₂, hQ⟩ := h
  ⟨_, _, _, SoloRuns.bind h₁ h₂, hQ⟩

theorem get {Q : CinderAPI → CinderAPI → Cluster → Prop} (h : Q i i c) :
    Can c (MonadState.get : Ctl CinderAPI) i Q :=
  ⟨i, i, c, .pure c (i, i), h⟩

theorem set {s : CinderAPI} {Q : PUnit → CinderAPI → Cluster → Prop} (h : Q () s c) :
    Can c (MonadStateOf.set s : Ctl PUnit) i Q :=
  ⟨(), s, c, .pure c ((), s), h⟩

theorem modify {f : CinderAPI → CinderAPI} {Q : PUnit → CinderAPI → Cluster → Prop}
    (h : Q () (f i) c) : Can c (MonadState.modifyGet fun s => ((), f s) : Ctl PUnit) i Q :=
  ⟨(), f i, c, .pure c ((), f i), h⟩

/-- A call can end in `Q` if some successful reply its contract allows does. -/
theorem send {o : Call} {Q : o.Reply → CinderAPI → Cluster → Prop} (r : o.Reply) {c' : Cluster}
    (hs : o.Step c r c') (hok : o.Succeeds c r) (h : Q r i c') :
    Can c (liftM (CinderOperator.send o) : Ctl o.Reply) i Q :=
  ⟨r, i, c', .call hs hok (.pure c' (r, i)), h⟩

end Can

/-! ## Keeping a cluster predicate -/

/-- Every run of `p` from a cluster satisfying `J` ends in one satisfying `J`. -/
def Prog.Keeps {α : Type} (J : Cluster → Prop) (p : Prog α) : Prop :=
  ∀ ⦃c a c'⦄, J c → Runs c p a c' → J c'

/-- `m` keeps `J` from every local instance. -/
def Keeps {α : Type} (J : Cluster → Prop) (m : Ctl α) : Prop := ∀ i, (m.run i).Keeps J

namespace Prog.Keeps

variable {α β : Type} {J : Cluster → Prop}

theorem pure {a : α} : (Prog.pure a).Keeps J := by
  intro c b c' hc hr
  cases hr
  exact hc

theorem bind {p : Prog α} {f : α → Prog β} (hp : p.Keeps J) (hf : ∀ a, (f a).Keeps J) :
    (p >>= f).Keeps J := by
  intro c b c' hc hr
  obtain ⟨a, c₁, h₁, h₂⟩ := Runs.of_bind hr
  exact hf a (hp hc h₁) h₂

theorem send {op : Call} (h : ∀ c c₁ r c₂, J c → Interference c c₁ → op.Step c₁ r c₂ → J c₂) :
    (CinderOperator.send op).Keeps J := by
  intro c b c' hc hr
  cases hr with
  | call hi hs hk =>
    cases hk
    exact h _ _ _ _ hc hi hs

/-- A call whose contract leaves the tracked cluster alone keeps every stable predicate. -/
theorem frame (hJ : Stable J) {op : Call} (hop : ∀ c r c', op.Step c r c' → c' = c) :
    (CinderOperator.send op).Keeps J :=
  send fun _ _ _ _ hc hi hs => hop _ _ _ hs ▸ hJ.interference hi hc

end Prog.Keeps

theorem Triple.keeps_run {α : Type} {J : Cluster → Prop} {P : CinderAPI → Cluster → Prop}
    {m : Ctl α} (h : Triple P m fun _ _ c => J c) {i : CinderAPI} (hi : ∀ c, J c → P i c) :
    (m.run i).Keeps J :=
  fun _ _ _ hc hr => h (hi _ hc) hr

namespace Keeps

variable {α β : Type} {J : Cluster → Prop}

theorem triple {m : Ctl α} (h : Keeps J m) : Triple (fun _ c => J c) m fun _ _ c => J c :=
  fun i _ _ _ _ hc hr => h i hc hr

theorem pure {a : α} : Keeps J (Pure.pure a) := fun _ => Prog.Keeps.pure

theorem bind {m : Ctl α} {f : α → Ctl β} (hm : Keeps J m) (hf : ∀ a, Keeps J (f a)) :
    Keeps J (m >>= f) :=
  fun i => Prog.Keeps.bind (hm i) fun p => hf p.1 p.2

theorem get : Keeps J (get : Ctl CinderAPI) := fun _ => Prog.Keeps.pure

theorem set {s : CinderAPI} : Keeps J (set s : Ctl PUnit) := fun _ => Prog.Keeps.pure

theorem modify {f : CinderAPI → CinderAPI} : Keeps J (modify f : Ctl PUnit) :=
  fun _ => Prog.Keeps.pure

theorem send {op : Call} (h : ∀ c c₁ r c₂, J c → Interference c c₁ → op.Step c₁ r c₂ → J c₂) :
    Keeps J (liftM (CinderOperator.send op) : Ctl op.Reply) :=
  fun _ => Prog.Keeps.bind (Prog.Keeps.send h) fun _ => Prog.Keeps.pure

theorem frame (hJ : Stable J) {op : Call} (hop : ∀ c r c', op.Step c r c' → c' = c) :
    Keeps J (liftM (CinderOperator.send op) : Ctl op.Reply) :=
  send fun _ _ _ _ hc hi hs => hop _ _ _ hs ▸ hJ.interference hi hc

end Keeps

end CinderOperator
