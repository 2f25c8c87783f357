import CinderOperator.Framework.Trace
import CinderOperator.Properties.Orphans

/-!
# What the controller's writes leave alone

The controller writes the CinderAPI with `Update` (the finalizer) and `Status().Update` (the
input hash), and patches its status on the way out of every pass.  Its local copy may be stale:
`Get` can serve an earlier state, and between any two calls others edit the spec, delete the
object or remove KeystoneServices.  What a maintainer needs is that none of this makes the
controller undo a change of someone else: **every call the controller makes leaves the stored
object as it found it, but for the status and the controller's own finalizer**; no call brings
back a removed object; and no call creates or deletes a KeystoneService other than the V2 and
the V3 one.  `Frame` is that promise for one call.  `reconcile_frame` proves it of every call of
every pass, in every state reachable from a versioned cluster by passes and steps of others in
any interleaving (`Move`).  `reconcile_retains` adds the other half of the finalizer protocol:
no call takes the controller's finalizer off an object that is not being deleted (`Retains`).

## Why it holds

`Status().Update` and the status patch write only the status, over whatever the server holds.
`Update` writes the whole object from the local copy.  It is safe because the server takes it
only when it carries the stored resourceVersion, and resourceVersions name states
(`Cluster.Versioned`).  `Fresh i c` says that the local copy `i` is the state its
resourceVersion names, up to what the controller itself changed (`Alike`: the status and its
finalizer).  A `Get` makes the copy fresh (`Fresh.of_stored`); the controller's own changes and
every step of others keep it fresh; a successful write renews it with the stored object
(`obeys_update`, `obeys_statusUpdate`).  `Update` is also the only call that can drop the
finalizer, and it sends a copy without it only from `reconcileDelete`, whose copy is being
deleted; a fresh copy is being deleted exactly when the state it names is.  The handlers are
walked with the rules of `Obeys`, carrying `Coherent` (versioned, and fresh) from call to call,
and checking `Safe` (`Frame` and `Retains`) at each call.
-/

namespace CinderOperator

variable (X : Externals)

/-- `o'` is `o` but for its status, its resourceVersion and the controller's own finalizer. -/
structure Alike (o o' : CinderAPI) : Prop where
  kind : o'.kind = o.kind
  name : o'.name = o.name
  ns : o'.ns = o.ns
  deletionTimestamp : o'.deletionTimestamp = o.deletionTimestamp
  ownerReferences : o'.ownerReferences = o.ownerReferences
  spec : o'.spec = o.spec
  finalizers : ∀ f ≠ X.finalizer, f ∈ o'.finalizers ↔ f ∈ o.finalizers

/-- The local instance `i` is, up to `Alike`, the stored state its resourceVersion names. -/
structure Fresh (i : CinderAPI) (c : Cluster) : Prop where
  le_revision : i.resourceVersion ≤ c.revision
  alike : ∀ o, c.Stored o → o.resourceVersion = i.resourceVersion → Alike X o i

/-- What the proofs carry from call to call: resource versions name states, and the local
instance is fresh. -/
structure Coherent (i : CinderAPI) (c : Cluster) : Prop where
  versioned : c.Versioned
  fresh : Fresh X i c

/-- **The frame of one call.**  The object the call leaves was there before it, and is the same
but for its status and the controller's finalizer; and the KeystoneServices other than the V2
and the V3 one are as they were. -/
structure Frame (a : Act) : Prop where
  object : ∀ o', a.dst.cinderAPI = some o' → ∃ o, a.src.cinderAPI = some o ∧ Alike X o o'
  keystoneServices : ∀ n ∉ serviceNames X, n ∈ a.dst.keystoneServices ↔ n ∈ a.src.keystoneServices

/-- **A live object keeps the finalizer.**  If the object the call meets is not being deleted
and carries the controller's finalizer, the call leaves it there, finalizer included. -/
def Retains (a : Act) : Prop :=
  ∀ o, a.src.cinderAPI = some o → o.isDeleting = false → X.finalizer ∈ o.finalizers →
    ∃ o', a.dst.cinderAPI = some o' ∧ X.finalizer ∈ o'.finalizers

/-- What every call of the controller respects. -/
structure Safe (a : Act) : Prop where
  frame : Frame X a
  retains : Retains X a

/-- One step of the system: a pass of `Reconcile` on any request, or a step of others. -/
inductive Move : Cluster → Cluster → Prop
  | pass {c c' : Cluster} (req : NamespacedName) {res : Result × Option Error} :
      Runs c (reconcile X req) res c' → Move c c'
  | user {c c' : Cluster} : UserStep c c' → Move c c'

variable {X}

/-! ## Alike states -/

namespace Alike

variable {o o₁ o₂ o₃ cur req : CinderAPI}

theorem refl (o : CinderAPI) : Alike X o o :=
  ⟨rfl, rfl, rfl, rfl, rfl, rfl, fun _ _ => Iff.rfl⟩

theorem trans (h₁ : Alike X o₁ o₂) (h₂ : Alike X o₂ o₃) : Alike X o₁ o₃ :=
  ⟨h₂.kind.trans h₁.kind, h₂.name.trans h₁.name, h₂.ns.trans h₁.ns,
    h₂.deletionTimestamp.trans h₁.deletionTimestamp, h₂.ownerReferences.trans h₁.ownerReferences,
    h₂.spec.trans h₁.spec, fun f hf => (h₂.finalizers f hf).trans (h₁.finalizers f hf)⟩

/-- A change of the status alone. -/
theorem status (o : CinderAPI) (s : CinderAPIStatus) : Alike X o { o with status := s } :=
  ⟨rfl, rfl, rfl, rfl, rfl, rfl, fun _ _ => Iff.rfl⟩

theorem addFinalizer (o : CinderAPI) : Alike X o (o.addFinalizer X.finalizer) := by
  refine ⟨rfl, rfl, rfl, rfl, rfl, rfl, fun f hf => ?_⟩
  unfold CinderAPI.addFinalizer
  split <;> simp [hf]

theorem removeFinalizer (o : CinderAPI) : Alike X o (o.removeFinalizer X.finalizer) :=
  ⟨rfl, rfl, rfl, rfl, rfl, rfl, fun f hf => by simp [CinderAPI.removeFinalizer, hf]⟩

/-- What `Update` stores over `cur`, from a request alike to it: the server keeps its own status
and deletion timestamp. -/
theorem updatedBy (h : Alike X cur req) (c : Cluster) :
    Alike X cur (c.stamp (cur.updatedBy req)) :=
  ⟨h.kind, h.name, h.ns, rfl, h.ownerReferences, h.spec, h.finalizers⟩

/-- What `Status().Update` and the status patch store over `cur`. -/
theorem withStatus (cur : CinderAPI) (s : CinderAPIStatus) (c : Cluster) :
    Alike X cur (c.stamp (cur.withStatus s)) :=
  ⟨rfl, rfl, rfl, rfl, rfl, rfl, fun _ _ => Iff.rfl⟩

end Alike

/-! ## Fresh local copies -/

namespace Fresh

variable {i i' o : CinderAPI} {c : Cluster}

/-- The controller's own changes to its copy keep it fresh. -/
theorem change (h : Fresh X i c) (hrv : i'.resourceVersion = i.resourceVersion)
    (ha : Alike X i i') : Fresh X i' c :=
  ⟨hrv ▸ h.le_revision, fun o ho hv => (h.alike o ho (hv.trans hrv)).trans ha⟩

/-- A write stamps a resourceVersion no copy carries yet. -/
theorem commit (h : Fresh X i c) (o : CinderAPI) : Fresh X i (c.commit o) where
  le_revision := h.le_revision.trans (Nat.le_succ _)
  alike o' ho' hv := by
    rcases Cluster.stored_commit ho' with rfl | ho'
    · simp only [Cluster.stamp_resourceVersion] at hv
      exact absurd h.le_revision (by omega)
    · exact h.alike o' ho' hv

/-- A state `Get` may serve, with its status initialised, is fresh. -/
theorem of_stored (hc : c.Versioned) (ho : c.Stored o) : Fresh X o.initStatus c :=
  ⟨hc.le_revision o ho, fun o' ho' hv => hc.unique o' o ho' ho hv ▸ Alike.status o' _⟩

/-- The state a write has just stored, as the client copies it back, is fresh. -/
theorem stamp (hc : c.Versioned) (o : CinderAPI) : Fresh X (c.stamp o) (c.commit o) where
  le_revision := le_rfl
  alike o' ho' hv := by
    rcases Cluster.stored_commit ho' with rfl | ho'
    · exact Alike.refl _
    · simp only [Cluster.stamp_resourceVersion] at hv
      exact absurd (hc.le_revision o' ho') (by omega)

end Fresh

namespace Coherent

variable {i : CinderAPI} {c c' : Cluster}

theorem change {i' : CinderAPI} (h : Coherent X i c) (hrv : i'.resourceVersion = i.resourceVersion)
    (ha : Alike X i i') : Coherent X i' c :=
  ⟨h.versioned, h.fresh.change hrv ha⟩

theorem commit (h : Coherent X i c) (o : CinderAPI) : Coherent X i (c.commit o) :=
  ⟨h.versioned.commit o, h.fresh.commit o⟩

theorem register (h : Coherent X i c) (n : String) : Coherent X i (c.register n) :=
  ⟨h.versioned.register n, h.fresh.1, h.fresh.2⟩

theorem deregister (h : Coherent X i c) (n : String) : Coherent X i (c.deregister n) :=
  ⟨h.versioned.deregister n, h.fresh.1, h.fresh.2⟩

theorem stable (i : CinderAPI) : Stable (Coherent X i) := by
  intro c c' hs h
  cases hs with
  | create o => exact h.commit _
  | edit s => exact h.commit _
  | delete t => exact h.commit _
  | unregister n => exact h.deregister n

theorem interference (h : Coherent X i c) (hi : Interference c c') : Coherent X i c' :=
  (stable i).interference hi h

end Coherent

/-! ## The frame of one call -/

namespace Frame

variable {op : Call} {c : Cluster}

theorem of_eq {a : Act} (h : a.dst = a.src) : Frame X a :=
  ⟨fun o' ho' => ⟨o', h ▸ ho', Alike.refl o'⟩, fun _ _ => h ▸ Iff.rfl⟩

/-- A call that changed nothing. -/
theorem quiet (op : Call) (c : Cluster) : Frame X ⟨op, c, c⟩ :=
  of_eq rfl

/-- A write over the stored `cur` of a state alike to it. -/
theorem commit {cur o : CinderAPI} (hcur : c.cinderAPI = some cur) (ha : Alike X cur (c.stamp o)) :
    Frame X ⟨op, c, c.commit o⟩ := by
  refine ⟨fun o' ho' => ⟨cur, hcur, ?_⟩, fun _ _ => Iff.rfl⟩
  unfold Cluster.commit at ho'
  split at ho' <;> cases ho'
  exact ha

theorem register {n : String} (hn : n ∈ serviceNames X) : Frame X ⟨op, c, c.register n⟩ :=
  ⟨fun o' ho' => ⟨o', ho', Alike.refl o'⟩, fun n' hn' => by
    simp [Finset.mem_insert, show n' ≠ n from fun h => hn' (h ▸ hn)]⟩

theorem deregister {n : String} (hn : n ∈ serviceNames X) : Frame X ⟨op, c, c.deregister n⟩ :=
  ⟨fun o' ho' => ⟨o', ho', Alike.refl o'⟩, fun n' hn' => by
    simp [Finset.mem_erase, show n' ≠ n from fun h => hn' (h ▸ hn)]⟩

end Frame

/-! ## The finalizer of a live object -/

namespace Retains

theorem of_cinderAPI {a : Act} (h : a.dst.cinderAPI = a.src.cinderAPI) : Retains X a :=
  fun o ho _ hf => ⟨o, h ▸ ho, hf⟩

/-- A write over the stored `cur` that keeps the finalizer of a live `cur`. -/
theorem commit {op : Call} {c : Cluster} {cur o : CinderAPI} (hcur : c.cinderAPI = some cur)
    (h : cur.isDeleting = false → X.finalizer ∈ cur.finalizers → X.finalizer ∈ o.finalizers) :
    Retains X ⟨op, c, c.commit o⟩ := by
  rintro o' ho' hd hf
  obtain rfl : cur = o' := Option.some.inj (hcur.symm.trans ho')
  have hfo := h hd hf
  exact ⟨_, Cluster.commit_cinderAPI_of_mem hfo, hfo⟩

end Retains

namespace Safe

variable {op : Call} {c : Cluster}

theorem quiet (op : Call) (c : Cluster) : Safe X ⟨op, c, c⟩ :=
  ⟨Frame.quiet op c, Retains.of_cinderAPI rfl⟩

theorem register {n : String} (hn : n ∈ serviceNames X) : Safe X ⟨op, c, c.register n⟩ :=
  ⟨Frame.register hn, Retains.of_cinderAPI rfl⟩

theorem deregister {n : String} (hn : n ∈ serviceNames X) : Safe X ⟨op, c, c.deregister n⟩ :=
  ⟨Frame.deregister hn, Retains.of_cinderAPI rfl⟩

/-- What `Status().Update` and the status patch write. -/
theorem withStatus {cur : CinderAPI} (hcur : c.cinderAPI = some cur) (s : CinderAPIStatus) :
    Safe X ⟨op, c, c.commit (cur.withStatus s)⟩ :=
  ⟨Frame.commit hcur (Alike.withStatus _ _ _), Retains.commit hcur fun _ h => h⟩

end Safe

/-! ## The calls -/

/-- A call that leaves the cluster as it is. -/
theorem obeys_quiet {o : Call} (h : ∀ c r c', o.Step c r c' → c' = c) :
    Obeys (Coherent X) (liftM (send o) : Ctl o.Reply) (fun _ => Coherent X) (Safe X) :=
  Obeys.send fun _ _ _ _ _ hic hi hs => by
    obtain rfl := h _ _ _ hs
    exact ⟨Safe.quiet _ _, hic.interference hi⟩

theorem obeys_createOrPatch {spec : KeystoneServiceSpec} (hn : spec.serviceName ∈ serviceNames X)
    (ns : String) (labels : StrMap) (t : Nat) :
    Obeys (Coherent X) (liftM (send (.keystoneServiceCreateOrPatch spec ns labels t)) : Ctl _)
      (fun _ => Coherent X) (Safe X) := by
  refine Obeys.send fun _ _ _ _ _ hic hi hs => ?_
  rcases hs.1 with rfl | rfl
  · exact ⟨Safe.quiet _ _, hic.interference hi⟩
  · exact ⟨Safe.register hn, (hic.interference hi).register _⟩

/-- A `Delete` of one of the reconciler's KeystoneServices; it keeps whatever `A` holds of the
copy, which no call touches. -/
theorem obeys_delete {A : CinderAPI → Prop} {spec : KeystoneServiceSpec}
    (hn : spec.serviceName ∈ serviceNames X) (ns : String) (labels : StrMap) (t : Nat) :
    Obeys (fun i c => Coherent X i c ∧ A i)
      (liftM (send (.keystoneServiceDelete spec ns labels t)) : Ctl _)
      (fun _ i c => Coherent X i c ∧ A i) (Safe X) := by
  refine Obeys.send fun _ _ _ _ _ hic hi hs => ?_
  rcases hs.1 with rfl | rfl
  · exact ⟨Safe.quiet _ _, hic.1.interference hi, hic.2⟩
  · exact ⟨Safe.deregister hn, (hic.1.interference hi).deregister _, hic.2⟩

section Update

/- `A` is what the handler knows of its copy when it sends `Update`: that it carries the
finalizer (`reconcileNormal`), or that it is being deleted (`reconcileDelete`). -/
variable {A : CinderAPI → Prop}
  (hA : ∀ i, A i → X.finalizer ∈ i.finalizers ∨ i.isDeleting = true)
  (hkeep : ∀ i i', A i → i'.finalizers = i.finalizers →
    i'.deletionTimestamp = i.deletionTimestamp → A i')
include hA hkeep

/-- **`Update` from a fresh copy** changes nothing but the controller's finalizer (and the
resourceVersion), takes the finalizer off a live object only if the copy lacks it, which a copy
of a live object it guards never does; and the copy the client gets back is fresh. -/
theorem obeys_update :
    Obeys (fun i c => Coherent X i c ∧ A i) update (fun _ i c => Coherent X i c ∧ A i) (Safe X) := by
  unfold update
  refine Obeys.bind (Obeys.get (Q := fun inst i c => inst = i ∧ Coherent X i c ∧ A i)
    fun _ _ h => ⟨rfl, h⟩) fun inst => ?_
  refine Obeys.bind (Obeys.send (o := .update inst) (Q := fun r i c => (Coherent X i c ∧ A i) ∧
    ∀ stored, r = .ok stored → Coherent X stored c ∧ A stored) ?_) fun r => ?_
  · rintro i c c₁ r c₂ ⟨rfl, hic, hAi⟩ hi (⟨rfl, e, rfl⟩ | ⟨cur, hcur, hrv, rfl, hr⟩)
    · exact ⟨Safe.quiet _ _, ⟨hic.interference hi, hAi⟩, fun _ h => nomatch h⟩
    · have hic₁ := hic.interference hi
      have ha := hic₁.fresh.alike cur (Cluster.stored_of_cinderAPI hcur) hrv
      have hsafe : Safe X ⟨.update inst, c₁, c₁.commit (cur.updatedBy inst)⟩ := by
        refine ⟨Frame.commit hcur (ha.updatedBy _), Retains.commit hcur fun hd hf => ?_⟩
        rcases hA _ hAi with h | h
        · exact h
        · simp only [CinderAPI.isDeleting, ha.deletionTimestamp] at h hd
          exact absurd h (by simp [hd])
      refine ⟨hsafe, ⟨hic₁.commit _, hAi⟩, fun stored hs => ?_⟩
      rcases hr with rfl | ⟨e, rfl⟩
      · cases hs
        exact ⟨⟨hic₁.versioned.commit _, Fresh.stamp hic₁.versioned _⟩,
          hkeep _ _ hAi rfl ha.deletionTimestamp.symm⟩
      · cases hs
  · rcases r with err | stored
    · exact Obeys.pure fun _ _ h => h.1
    · exact Obeys.bind (Obeys.set fun _ _ h => h.2 stored rfl) fun _ => Obeys.pure fun _ _ h => h

end Update

/-- **`Status().Update`** changes nothing but the status, and the copy the client gets back is
fresh. -/
theorem obeys_statusUpdate : Obeys (Coherent X) statusUpdate (fun _ => Coherent X) (Safe X) := by
  unfold statusUpdate
  refine Obeys.bind (Obeys.get (Q := fun inst i c => inst = i ∧ Coherent X i c)
    fun _ _ h => ⟨rfl, h⟩) fun inst => ?_
  refine Obeys.bind (Obeys.send (o := .statusUpdate inst) (Q := fun r i c => Coherent X i c ∧
    ∀ stored, r = .ok stored → Coherent X stored c) ?_) fun r => ?_
  · rintro i c c₁ r c₂ ⟨rfl, hic⟩ hi (⟨rfl, e, rfl⟩ | ⟨cur, hcur, -, rfl, hr⟩)
    · exact ⟨Safe.quiet _ _, hic.interference hi, fun _ h => nomatch h⟩
    · have hic₁ := hic.interference hi
      refine ⟨Safe.withStatus hcur _, hic₁.commit _, fun stored hs => ?_⟩
      rcases hr with rfl | ⟨e, rfl⟩
      · cases hs
        exact ⟨hic₁.versioned.commit _, Fresh.stamp hic₁.versioned _⟩
      · cases hs
  · rcases r with err | stored
    · exact Obeys.pure fun _ _ h => h.1
    · exact Obeys.bind (Obeys.set fun _ _ h => h.2 stored rfl) fun _ => Obeys.pure fun _ _ h => h

/-! ## The handlers

Each handler keeps `Coherent` and makes only `Safe` calls.  The proofs walk the code: every call
is one of the lemmas above, and every change the controller makes to its copy is a change of the
status or of its own finalizer. -/

theorem obeys_generateServiceConfigMaps (envVars : StrMap) :
    Obeys (Coherent X) (generateServiceConfigMaps X envVars) (fun _ => Coherent X) (Safe X) := by
  unfold generateServiceConfigMaps
  repeat' first
    | with_reducible refine Obeys.bind_inv ?_ fun _ => ?_
    | with_reducible exact Obeys.pure fun _ _ h => h
    | with_reducible exact Obeys.get fun _ _ h => h
    | split
    | exact obeys_quiet fun _ _ _ h => h
    | exact obeys_quiet fun _ _ _ h => h.1

theorem obeys_createHashOfInputHashes (envVars : StrMap) :
    Obeys (Coherent X) (createHashOfInputHashes X envVars) (fun _ => Coherent X) (Safe X) := by
  unfold createHashOfInputHashes
  repeat' first
    | with_reducible refine Obeys.bind_inv ?_ fun _ => ?_
    | with_reducible exact Obeys.pure fun _ _ h => h
    | with_reducible exact Obeys.get fun _ _ h => h
    | with_reducible exact obeys_statusUpdate
    | split
    | exact Obeys.modify fun _ _ h => h.change rfl (Alike.status _ _)

theorem obeys_registerKeystoneServices (serviceLabels : StrMap) :
    ∀ l : List KeystoneServiceEntry, (∀ e ∈ l, e.name ∈ serviceNames X) →
      Obeys (Coherent X) (registerKeystoneServices serviceLabels l) (fun _ => Coherent X)
        (Safe X)
  | [], _ => Obeys.pure fun _ _ h => h
  | ksSvc :: rest, hl => by
    unfold registerKeystoneServices
    refine Obeys.bind_inv (Obeys.get fun _ _ h => h) fun inst =>
      Obeys.bind_inv (obeys_createOrPatch (hl ksSvc (List.mem_cons_self _ _)) _ _ _) fun r => ?_
    have ih := obeys_registerKeystoneServices serviceLabels rest
      fun e he => hl e (List.mem_cons_of_mem _ he)
    repeat' first
      | with_reducible refine Obeys.bind_inv ?_ fun _ => ?_
      | with_reducible exact Obeys.pure fun _ _ h => h
      | with_reducible exact ih
      | split
      | exact Obeys.modify fun _ _ h => h.change rfl (Alike.status _ _)

theorem obeys_reconcileInit (serviceLabels : StrMap) :
    Obeys (Coherent X) (reconcileInit X serviceLabels) (fun _ => Coherent X) (Safe X) := by
  unfold reconcileInit
  repeat' first
    | with_reducible refine Obeys.bind_inv ?_ fun _ => ?_
    | with_reducible exact Obeys.pure fun _ _ h => h
    | with_reducible exact Obeys.get fun _ _ h => h
    | with_reducible apply obeys_registerKeystoneServices
    | split
    | exact obeys_quiet fun _ _ _ h => h
    | exact Obeys.modify fun _ _ h => h.change rfl (Alike.status _ _)
  simp [keystoneServices, serviceNames]

/-- `reconcileNormal` puts the finalizer on its copy first, so its `Update` never drops it. -/
theorem obeys_reconcileNormal :
    Obeys (Coherent X) (reconcileNormal X) (fun _ => Coherent X) (Safe X) := by
  unfold reconcileNormal reconcileUpdate reconcileUpgrade
  refine Obeys.bind (M := fun _ i c => Coherent X i c ∧ X.finalizer ∈ i.finalizers)
    (Obeys.modify fun i _ h => ⟨h.change rfl (Alike.addFinalizer _), i.mem_addFinalizer _⟩)
    fun _ => Obeys.bind (M := fun _ => Coherent X) ((obeys_update (fun _ h => .inl h)
      fun _ _ h hf _ => hf ▸ h).mono (fun _ _ h => h) fun _ _ _ h => h.1) fun _ => ?_
  repeat' first
    | with_reducible refine Obeys.bind_inv ?_ fun _ => ?_
    | with_reducible exact Obeys.pure fun _ _ h => h
    | with_reducible exact Obeys.get fun _ _ h => h
    | with_reducible exact obeys_generateServiceConfigMaps _
    | with_reducible exact obeys_createHashOfInputHashes _
    | with_reducible exact obeys_reconcileInit _
    | split
    | exact obeys_quiet fun _ _ _ h => h
    | exact Obeys.modify fun _ _ h => h.change rfl (Alike.status _ _)

theorem obeys_deleteKeystoneServices {A : CinderAPI → Prop} :
    ∀ l : List KeystoneServiceEntry, (∀ e ∈ l, e.name ∈ serviceNames X) →
      Obeys (fun i c => Coherent X i c ∧ A i) (deleteKeystoneServices l)
        (fun _ i c => Coherent X i c ∧ A i) (Safe X)
  | [], _ => Obeys.pure fun _ _ h => h
  | ksSvc :: rest, hl => by
    unfold deleteKeystoneServices
    refine Obeys.bind_inv (Obeys.get fun _ _ h => h) fun inst =>
      Obeys.bind_inv (obeys_delete (hl ksSvc (List.mem_cons_self _ _)) _ _ _) fun r => ?_
    rcases r with _ | err
    · exact obeys_deleteKeystoneServices rest fun e he => hl e (List.mem_cons_of_mem _ he)
    · exact Obeys.pure fun _ _ h => h

/-- `reconcileDelete` runs on a copy that is being deleted, and its `Update` keeps it so. -/
theorem obeys_reconcileDelete :
    Obeys (fun i c => Coherent X i c ∧ i.isDeleting = true) (reconcileDelete X)
      (fun _ i c => Coherent X i c ∧ i.isDeleting = true) (Safe X) := by
  unfold reconcileDelete
  have hupdate := obeys_update (X := X) (A := (·.isDeleting = true)) (fun _ h => .inr h)
    fun _ _ h _ hd => (congrArg Option.isSome hd).trans h
  repeat' first
    | with_reducible refine Obeys.bind_inv ?_ fun _ => ?_
    | with_reducible exact Obeys.pure fun _ _ h => h
    | with_reducible exact Obeys.get fun _ _ h => h
    | with_reducible exact hupdate
    | with_reducible apply obeys_deleteKeystoneServices
    | split
    | exact Obeys.modify fun _ _ h => ⟨h.1.change rfl (Alike.removeFinalizer _), h.2⟩
  simp [keystoneServices, serviceNames]

/-! ## The pass -/

theorem versioned_stable : Stable Cluster.Versioned := fun _ _ hs h => h.user hs

/-- The deferred status patch writes only the status. -/
theorem patchStatus_frame (before inst : CinderAPI) {c c' : Cluster} {u : Unit} {t : List Act}
    (hc : c.Versioned) (h : Traced c (patchStatus before inst) u t c') :
    c'.Versioned ∧ ∀ a ∈ t, Safe X a := by
  unfold patchStatus at h
  obtain ⟨r, c₁, t₁, t₂, rfl, h₁, h₂⟩ := Traced.of_bind h
  obtain ⟨c₀, hi, ⟨rfl, -⟩, rfl⟩ := Traced.of_send h₁
  have hv := versioned_stable.interference hi hc
  rcases r with ⟨_, _ | _⟩
  · cases h₂
    exact ⟨hv, by simp [Safe.quiet]⟩
  · obtain ⟨r, c₂, t₃, t₄, rfl, h₃, h₄⟩ := Traced.of_bind h₂
    obtain ⟨c₃, hi₃, hs, rfl⟩ := Traced.of_send h₃
    cases h₄
    have hv₃ := versioned_stable.interference hi₃ hv
    rcases hs with rfl | ⟨cur, s, hcur, rfl⟩
    · exact ⟨hv₃, by simp [Safe.quiet]⟩
    · exact ⟨hv₃.commit _, by simpa using ⟨Safe.quiet _ _, Safe.withStatus hcur _⟩⟩

/-- A pass of `Reconcile` from a versioned cluster leaves it versioned, and each of its calls
is safe. -/
theorem reconcile_obeys (req : NamespacedName) {c c' : Cluster} {res : Result × Option Error}
    {t : List Act} (hc : c.Versioned) (h : Traced c (reconcile X req) res t c') :
    c'.Versioned ∧ ∀ a ∈ t, Safe X a := by
  unfold reconcile at h
  obtain ⟨r, c₁, t₁, t₂, rfl, h₁, h₂⟩ := Traced.of_bind h
  obtain ⟨c₁, hi, ⟨rfl, hr⟩, rfl⟩ := Traced.of_send h₁
  have hv := versioned_stable.interference hi hc
  rcases r with err | fetched
  · cases hnf : err.isNotFound <;> simp only [hnf] at h₂ <;> cases h₂ <;>
      exact ⟨hv, by simp [Safe.quiet]⟩
  · have hst : c₁.Stored fetched := by
      rcases hr with ⟨s, hs, hr⟩ | ⟨_, hr⟩
      · exact Cluster.stored_of_read hs hr.symm
      · cases hr
    obtain ⟨r, c₂, t₃, t₄, rfl, h₃, h₄⟩ := Traced.of_bind h₂
    obtain ⟨c₂, hi₂, rfl, rfl⟩ := Traced.of_send h₃
    have hco : Coherent X fetched.initStatus c₂ :=
      Coherent.interference ⟨hv, Fresh.of_stored hv hst⟩ hi₂
    rcases r with _ | err
    · obtain ⟨_, c₄, t₅, t₆, rfl, h₅, h₆⟩ := Traced.of_bind h₄
      cases h₅
      obtain ⟨⟨res', inst'⟩, c₅, t₇, t₈, rfl, h₇, h₈⟩ := Traced.of_bind h₆
      obtain ⟨hco₅, hf₇⟩ : Coherent X inst' c₅ ∧ ∀ a ∈ t₇, Safe X a := by
        split at h₇
        · next hd => exact (obeys_reconcileDelete ⟨hco, hd⟩ h₇).imp_left And.left
        · exact obeys_reconcileNormal hco h₇
      obtain ⟨_, c₆, t₉, t₁₀, rfl, h₉, h₁₀⟩ := Traced.of_bind h₈
      obtain ⟨hv₆, hf₉⟩ := patchStatus_frame (X := X) _ _ hco₅.versioned h₉
      cases h₁₀
      refine ⟨hv₆, ?_⟩
      simp only [List.mem_append, List.mem_singleton, List.not_mem_nil, or_false, false_or]
      rintro a (rfl | rfl | ha | ha)
      · exact Safe.quiet _ _
      · exact Safe.quiet _ _
      · exact hf₇ a ha
      · exact hf₉ a ha
    · cases h₄
      exact ⟨hco.versioned, by simp [Safe.quiet]⟩

theorem Move.versioned {c c' : Cluster} (h : Move X c c') (hc : c.Versioned) : c'.Versioned := by
  cases h with
  | pass req hr =>
    obtain ⟨t, ht⟩ := Runs.traced hr
    exact (reconcile_obeys req hc ht).1
  | user hs => exact hc.user hs

/-- Resource versions keep naming states along every interleaving of passes and steps of
others. -/
theorem versioned_of_moves {c₀ c : Cluster} (h₀ : c₀.Versioned)
    (h : Relation.ReflTransGen (Move X) c₀ c) : c.Versioned := by
  induction h with
  | refl => exact h₀
  | tail _ hm ih => exact hm.versioned ih

/-- **The controller only touches what is its own.**  In every state reachable from a versioned
cluster, by passes of `Reconcile` and steps of others in any interleaving, every call of a pass
(whatever was read, however stale, and whatever others did just before it) leaves the stored
CinderAPI as it found it but for the status and the controller's own finalizer: no spec edit,
deletion timestamp, owner or other finalizer is lost or made up, and no removed object comes
back.  And it creates or deletes no KeystoneService but the V2 and the V3 one. -/
theorem reconcile_frame {c₀ c c' : Cluster} (h₀ : c₀.Versioned)
    (hc : Relation.ReflTransGen (Move X) c₀ c) (req : NamespacedName)
    {res : Result × Option Error} {t : List Act} (h : Traced c (reconcile X req) res t c') :
    ∀ a ∈ t, Frame X a :=
  fun a ha => ((reconcile_obeys req (versioned_of_moves h₀ hc) h).2 a ha).frame

/-- A cluster that holds one state of the object, stamped with the current revision, is
versioned: the cluster where the sample CinderAPI has just been created, for one. -/
theorem versioned_created :
    Cluster.Versioned ⟨some (CinderAPI.sample (.sample "" ∅)), [], 1, ∅⟩ :=
  ⟨fun o ho => by
    obtain rfl : o = _ := by simpa [Cluster.Stored] using ho
    exact le_rfl,
  fun o o' ho ho' _ => by simp_all [Cluster.Stored]⟩

/-- The registering pass from the cluster where the sample CinderAPI has just been created: it
writes the object and registers both KeystoneServices, and every call of it is within the
frame. -/
theorem reconcile_frame_registered :
    let c : Cluster := ⟨some (CinderAPI.sample (.sample "" ∅)), [], 1, ∅⟩
    c.Versioned ∧ ∃ t c', Traced c (reconcile .sample ⟨"openstack", "cinder-api"⟩) ({}, none) t c' ∧
      c'.keystoneServices = {"cinderv2", "cinderv3"} ∧ ∀ a ∈ t, Frame .sample a :=
  let ⟨c', hr, hk, _⟩ := sample_pass_registers
  let ⟨t, ht⟩ := Runs.traced hr.runs
  ⟨versioned_created, t, c', ht, hk, reconcile_frame versioned_created .refl _ ht⟩

/-- **The controller never lets go of a live object.**  In every state reachable from a
versioned cluster, no call of a pass takes the controller's finalizer off a CinderAPI that is
not being deleted, or removes such an object.  `reconcileNormal` puts the finalizer on its copy
before it sends `Update`; `reconcileDelete` drops it only from a copy that is being deleted, and
the server takes that copy only over the very state it was read from, which is being deleted
too: however stale the read, the finalizer of a live object stays. -/
theorem reconcile_retains {c₀ c c' : Cluster} (h₀ : c₀.Versioned)
    (hc : Relation.ReflTransGen (Move X) c₀ c) (req : NamespacedName)
    {res : Result × Option Error} {t : List Act} (h : Traced c (reconcile X req) res t c') :
    ∀ a ∈ t, Retains X a :=
  fun a ha => ((reconcile_obeys req (versioned_of_moves h₀ hc) h).2 a ha).retains

/-- The registering pass from the cluster where the sample CinderAPI has just been created: the
object ends held by the finalizer, and none of the calls lets go of it. -/
theorem reconcile_retains_registered :
    let c : Cluster := ⟨some (CinderAPI.sample (.sample "" ∅)), [], 1, ∅⟩
    c.Versioned ∧ ∃ t c', Traced c (reconcile .sample ⟨"openstack", "cinder-api"⟩) ({}, none) t c' ∧
      (∃ o', c'.cinderAPI = some o' ∧ Externals.sample.finalizer ∈ o'.finalizers) ∧
      ∀ a ∈ t, Retains .sample a :=
  let ⟨c', hr, _, o', ho', _, hf'⟩ := sample_pass_registers
  let ⟨t, ht⟩ := Runs.traced hr.runs
  ⟨versioned_created, t, c', ht, ⟨o', ho', hf'⟩, reconcile_retains versioned_created .refl _ ht⟩

end CinderOperator
