import CinderOperator.Properties.Progress

/-!
# No orphaned identity-service registration

The reconciler registers the V2 and V3 KeystoneServices, and promises that none outlives the
CinderAPI it belongs to: `reconcileNormal` puts the finalizer on the object, and persists it,
before it creates anything, and `reconcileDelete` removes the finalizer only after both
registrations are deleted.  `NoOrphan` is the invariant this gives: every KeystoneService that
exists is one of the two, and the CinderAPI is there, held by the finalizer.
`no_orphaned_registration` proves it of every state reachable from one with no KeystoneService,
by passes of `Reconcile` on any request interleaved with the steps of others, with stale reads,
failing and requeueing collaborators, and deletions at any point of a pass.

## How the proof goes

`Tame c c'` is a change that adds no KeystoneService and keeps the finalizer in place.  Every
step of others is tame, and so is every call except `Update`, which replaces the finalizers, and
the KeystoneService `CreateOrPatch`, which adds a registration.  Each of these two gets its own
lemma (`update_holds`, `update_empty`, `keeps_createOrPatch`); everything else follows from the
program logic of `Framework/Triple`, along the code.

* After the finalizer is persisted, the rest of `reconcileNormal` keeps `Guarded` (no orphan,
  and the finalizer in place), which lets the registrations through.
* `reconcileDelete` deletes the two registrations, so when it reaches the `Update` that drops
  the finalizer, none is left.  That needs its guard `Status.APIEndpoints != nil` to hold, and
  `Reconcile` has just made the map non-`nil` (`CinderAPI.initStatus_apiEndpoints_isSome`).
-/

namespace CinderOperator

variable (X : Externals)

/-- The KeystoneServices the reconciler makes: the V2 and the V3 one. -/
def serviceNames : Finset String := {X.serviceNameV2, X.serviceNameV3}

/-- The CinderAPI is there and carries the controller's finalizer. -/
def Held (c : Cluster) : Prop := ∃ o, c.cinderAPI = some o ∧ X.finalizer ∈ o.finalizers

/-- **No orphaned registration.**  Every KeystoneService that exists is one of the reconciler's,
and its CinderAPI is there, held by the finalizer. -/
def NoOrphan (c : Cluster) : Prop := ∀ n ∈ c.keystoneServices, n ∈ serviceNames X ∧ Held X c

/-- What holds once `reconcileNormal` has persisted the finalizer. -/
def Guarded (c : Cluster) : Prop := NoOrphan X c ∧ Held X c

/-- A change that adds no KeystoneService and keeps the finalizer in place. -/
structure Tame (c c' : Cluster) : Prop where
  keystoneServices : c'.keystoneServices ⊆ c.keystoneServices
  held : Held X c → Held X c'

variable {X}

/-! ## Tame changes -/

theorem Tame.refl (c : Cluster) : Tame X c c := ⟨subset_rfl, id⟩

theorem Tame.trans {c₁ c₂ c₃ : Cluster} (h₁ : Tame X c₁ c₂) (h₂ : Tame X c₂ c₃) :
    Tame X c₁ c₃ :=
  ⟨h₂.keystoneServices.trans h₁.keystoneServices, h₂.held ∘ h₁.held⟩

theorem NoOrphan.tame {c c' : Cluster} (hc : NoOrphan X c) (h : Tame X c c') : NoOrphan X c' :=
  fun n hn => (hc n (h.keystoneServices hn)).imp_right h.held

theorem Guarded.tame {c c' : Cluster} (hc : Guarded X c) (h : Tame X c c') : Guarded X c' :=
  ⟨hc.1.tame h, h.held hc.2⟩

/-- A commit of an object carrying the finalizer holds it. -/
theorem held_commit {c : Cluster} {o : CinderAPI} (hf : X.finalizer ∈ o.finalizers) :
    Held X (c.commit o) :=
  ⟨_, Cluster.commit_cinderAPI_of_mem hf, hf⟩

/-- A commit over the stored object that keeps its finalizers is tame. -/
theorem tame_commit {c : Cluster} {cur o : CinderAPI} (hcur : c.cinderAPI = some cur)
    (hf : o.finalizers = cur.finalizers) : Tame X c (c.commit o) := by
  refine ⟨subset_of_eq rfl, fun ⟨o', ho', hf'⟩ => held_commit ?_⟩
  rw [hcur] at ho'
  cases ho'
  exact hf ▸ hf'

/-- No step of others adds a KeystoneService. -/
theorem UserStep.keystoneServices_subset {c c' : Cluster} (h : UserStep c c') :
    c'.keystoneServices ⊆ c.keystoneServices := by
  cases h <;> simp [Finset.erase_subset]

/-- Every step of others is tame. -/
theorem UserStep.tame {c c' : Cluster} (h : UserStep c c') : Tame X c c' := by
  cases h with
  | create o hnone _ => exact ⟨subset_of_eq rfl, fun ⟨_, ho, _⟩ => by simp [hnone] at ho⟩
  | edit s h => exact tame_commit h rfl
  | delete t h => exact tame_commit h rfl
  | unregister n => exact ⟨Finset.erase_subset _ _, id⟩

theorem Interference.tame {c c' : Cluster} (h : Interference c c') : Tame X c c' := by
  induction h with
  | refl => exact .refl _
  | tail _ hs ih => exact ih.trans hs.tame

theorem NoOrphan.stable : Stable (NoOrphan X) := fun _ _ hs hc => hc.tame hs.tame

theorem Guarded.stable : Stable (Guarded X) := fun _ _ hs hc => hc.tame hs.tame

/-! ## The calls -/

/-- A call whose every step is tame. -/
def Call.Tame (X : Externals) (op : Call) : Prop :=
  ∀ c r c', op.Step c r c' → CinderOperator.Tame X c c'

theorem Call.tame_of_eq {op : Call} (h : ∀ c r c', op.Step c r c' → c' = c) : op.Tame X := by
  intro c r c' hs
  obtain rfl := h c r c' hs
  exact .refl _

theorem Call.Tame.keeps_guarded {op : Call} (h : op.Tame X) :
    Keeps (Guarded X) (liftM (send op) : Ctl op.Reply) :=
  Keeps.send fun _ _ _ _ hc hi hs => (hc.tame hi.tame).tame (h _ _ _ hs)

/-- `Status().Update` and `Status().Patch` leave the finalizers as stored. -/
theorem tame_statusUpdate (req : CinderAPI) : (Call.statusUpdate req).Tame X := by
  rintro c r c' (⟨rfl, -⟩ | ⟨cur, hcur, -, rfl, -⟩)
  · exact .refl _
  · exact tame_commit hcur rfl

theorem tame_statusPatch (before after : CinderAPI) : (Call.statusPatch before after).Tame X := by
  rintro c r c' (rfl | ⟨cur, s, hcur, rfl⟩)
  · exact .refl _
  · exact tame_commit hcur rfl

theorem tame_delete (spec : KeystoneServiceSpec) (ns : String) (labels : StrMap) (t : Nat) :
    (Call.keystoneServiceDelete spec ns labels t).Tame X := by
  rintro c r c' ⟨rfl | rfl, -⟩
  · exact .refl _
  · exact ⟨Finset.erase_subset _ _, id⟩

/-- A `CreateOrPatch` of one of the reconciler's KeystoneServices keeps `Guarded`. -/
theorem keeps_createOrPatch {spec : KeystoneServiceSpec} (hn : spec.serviceName ∈ serviceNames X)
    (ns : String) (labels : StrMap) (t : Nat) :
    Keeps (Guarded X) (liftM (send (.keystoneServiceCreateOrPatch spec ns labels t)) : Ctl _) := by
  refine Keeps.send fun c c₁ r c₂ hc hi hs => ?_
  have hc₁ : Guarded X c₁ := hc.tame hi.tame
  rcases hs.1 with rfl | rfl
  · exact hc₁
  · refine ⟨fun n hn' => ?_, hc₁.2⟩
    rcases Finset.mem_insert.mp hn' with rfl | hn'
    · exact ⟨hn, hc₁.2⟩
    · exact hc₁.1 n hn'

/-- `Update` of an instance carrying the finalizer keeps `NoOrphan`, and when it succeeds the
stored object holds the finalizer. -/
theorem update_holds :
    Triple (fun i c => NoOrphan X c ∧ X.finalizer ∈ i.finalizers) update
      (fun r _ c => NoOrphan X c ∧ (r = none → Held X c)) := by
  unfold update
  refine Triple.bind (Triple.get (Q := fun inst i c => inst = i ∧ NoOrphan X c ∧
    X.finalizer ∈ i.finalizers) fun i c h => ⟨rfl, h⟩) fun inst => ?_
  refine Triple.bind (Triple.send (o := .update inst) (Q := fun r _ c => NoOrphan X c ∧
    (∀ stored, r = .ok stored → Held X c)) ?_) fun r => ?_
  · rintro i c c₁ r c₂ ⟨rfl, hc, hf⟩ hi (⟨rfl, e, rfl⟩ | ⟨cur, -, -, rfl, hr⟩)
    · exact ⟨hc.tame hi.tame, fun _ h => nomatch h⟩
    · have hheld : Held X (c₁.commit (cur.updatedBy inst)) := held_commit hf
      exact ⟨fun n hn => ⟨((hc.tame hi.tame) n hn).1, hheld⟩, fun _ _ => hheld⟩
  · rcases r with err | stored
    · exact Triple.pure fun _ _ h => ⟨h.1, fun h' => nomatch h'⟩
    · exact Triple.bind (Triple.set (Q := fun _ _ c => Guarded X c)
        fun _ _ h => ⟨h.1, h.2 stored rfl⟩) fun _ => Triple.pure fun _ _ h => ⟨h.1, fun _ => h.2⟩

/-- No step of others adds a KeystoneService to none. -/
theorem empty_stable : Stable fun c => c.keystoneServices = ∅ := fun _ _ hs h =>
  Finset.subset_empty.mp (h ▸ hs.keystoneServices_subset)

/-- With no KeystoneService left, `Update` leaves none. -/
theorem update_empty : Keeps (fun c => c.keystoneServices = ∅) update := by
  unfold update
  refine Keeps.bind Keeps.get fun inst => Keeps.bind (Keeps.send ?_) fun r => ?_
  · rintro c c₁ r c₂ hc hi hs
    have h₁ := empty_stable.interference hi hc
    rcases hs with ⟨rfl, -⟩ | ⟨cur, -, -, rfl, -⟩
    · exact h₁
    · exact h₁
  · rcases r with err | stored
    · exact Keeps.pure
    · exact Keeps.bind Keeps.set fun _ => Keeps.pure

theorem keeps_statusUpdate : Keeps (Guarded X) statusUpdate := by
  unfold statusUpdate
  refine Keeps.bind Keeps.get fun inst =>
    Keeps.bind (Call.Tame.keeps_guarded (tame_statusUpdate inst)) fun r => ?_
  rcases r with err | stored
  · exact Keeps.pure
  · exact Keeps.bind Keeps.set fun _ => Keeps.pure

/-! ## `reconcileNormal` -/

theorem keeps_createHashOfInputHashes (envVars : StrMap) :
    Keeps (Guarded X) (createHashOfInputHashes X envVars) := by
  unfold createHashOfInputHashes
  repeat' first
    | with_reducible refine Keeps.bind ?_ fun _ => ?_
    | with_reducible exact keeps_statusUpdate
    | with_reducible exact Keeps.pure
    | with_reducible exact Keeps.get
    | with_reducible exact Keeps.modify
    | split

/-- The registration loop keeps `Guarded`, for rows of the reconciler's own KeystoneServices. -/
theorem keeps_registerKeystoneServices (serviceLabels : StrMap) :
    ∀ l : List KeystoneServiceEntry, (∀ e ∈ l, e.name ∈ serviceNames X) →
      Keeps (Guarded X) (registerKeystoneServices serviceLabels l)
  | [], _ => Keeps.pure
  | ksSvc :: rest, hl => by
    unfold registerKeystoneServices
    refine Keeps.bind Keeps.get fun inst =>
      Keeps.bind (keeps_createOrPatch (hl ksSvc (List.mem_cons_self _ _)) _ _ _) fun r => ?_
    repeat' first
      | exact Keeps.pure
      | exact Keeps.modify
      | exact keeps_registerKeystoneServices serviceLabels rest
          fun e he => hl e (List.mem_cons_of_mem _ he)
      | refine Keeps.bind ?_ fun _ => ?_
      | split

theorem keeps_reconcileInit (serviceLabels : StrMap) :
    Keeps (Guarded X) (reconcileInit X serviceLabels) := by
  unfold reconcileInit
  repeat' first
    | with_reducible refine Keeps.bind ?_ fun _ => ?_
    | with_reducible exact Keeps.pure
    | with_reducible exact Keeps.get
    | with_reducible exact Keeps.modify
    | with_reducible apply keeps_registerKeystoneServices
    | split
    | exact Call.Tame.keeps_guarded (Call.tame_of_eq fun _ _ _ h => h)
  simp [keystoneServices, serviceNames]

/-- **`reconcileNormal` makes no orphan.**  The finalizer is persisted first; from there on every
step keeps it in place, so the registrations it creates are held. -/
theorem keeps_reconcileNormal : Keeps (NoOrphan X) (reconcileNormal X) := by
  refine fun i => Triple.keeps_run (P := fun _ c => NoOrphan X c) ?_ fun _ h => h
  unfold reconcileNormal
  refine Triple.bind (Triple.modify (Q := fun _ i c => NoOrphan X c ∧ X.finalizer ∈ i.finalizers)
    fun i _ h => ⟨h, i.mem_addFinalizer _⟩) fun _ => Triple.bind update_holds fun r => ?_
  rcases r with _ | err
  · refine (Keeps.triple (J := Guarded X) ?_).mono (fun _ _ h => ⟨h.1, h.2 rfl⟩) fun _ _ _ h => h.1
    unfold reconcileUpdate reconcileUpgrade
    repeat' first
      | with_reducible refine Keeps.bind ?_ fun _ => ?_
      | with_reducible exact Keeps.pure
      | with_reducible exact Keeps.get
      | with_reducible exact Keeps.modify
      | with_reducible exact generateServiceConfigMaps_keeps Guarded.stable _
      | with_reducible exact keeps_createHashOfInputHashes _
      | with_reducible exact keeps_reconcileInit _
      | split
      | exact Call.Tame.keeps_guarded (Call.tame_of_eq fun _ _ _ h => h)
  · exact Triple.pure fun _ _ h => h.1

/-! ## `reconcileDelete` -/

section Deletion

/- `J` is what the deletion keeps of the cluster besides the bound on its KeystoneServices:
anything every tame change keeps, `NoOrphan` for one. -/
variable {J : Cluster → Prop} (hJ : ∀ c c', J c → Tame X c c' → J c')
include hJ

/-- The deletion loop keeps `J` and every bound `S` on the KeystoneServices, and when it returns
no error, the KeystoneService of none of its rows is left. -/
theorem deleteKeystoneServices_spec :
    ∀ (l : List KeystoneServiceEntry) (S : Finset String),
      Triple (fun _ c => J c ∧ c.keystoneServices ⊆ S) (deleteKeystoneServices l)
        (fun r _ c => J c ∧ c.keystoneServices ⊆ S ∧
          (r = none → ∀ e ∈ l, e.name ∉ c.keystoneServices))
  | [], _ => Triple.pure fun _ _ h => ⟨h.1, h.2, fun _ e he => absurd he (List.not_mem_nil e)⟩
  | ksSvc :: rest, S => by
    unfold deleteKeystoneServices
    refine Triple.bind (Triple.get (Q := fun _ _ c => J c ∧ c.keystoneServices ⊆ S)
      fun _ _ h => h) fun inst => ?_
    refine Triple.bind (Triple.send (o := .keystoneServiceDelete (ksSvcSpec inst ksSvc) inst.ns ∅ 10)
      (Q := fun r _ c => J c ∧ c.keystoneServices ⊆ S ∧
        (r = none → ksSvc.name ∉ c.keystoneServices)) ?_) fun r => ?_
    · rintro _ c c₁ r c₂ ⟨hc, hS⟩ hi hs
      have ht : Tame X c c₂ := hi.tame.trans (tame_delete _ _ _ _ _ _ _ hs)
      refine ⟨hJ _ _ hc ht, ht.keystoneServices.trans hS, fun hr => ?_⟩
      rw [hs.2 hr]
      exact Finset.not_mem_erase _ _
    · rcases r with _ | err
      · refine (deleteKeystoneServices_spec rest (S.erase ksSvc.name)).mono
          (fun _ _ h => ⟨h.1, Finset.subset_erase.mpr ⟨h.2.1, h.2.2 rfl⟩⟩) ?_
        rintro r _ c ⟨hc, hS, hrest⟩
        obtain ⟨hS, hname⟩ := Finset.subset_erase.mp hS
        refine ⟨hc, hS, fun hr e he => ?_⟩
        rcases List.mem_cons.mp he with rfl | he
        · exact hname
        · exact hrest hr e he
      · exact Triple.pure fun _ _ h => ⟨h.1, h.2.1, fun h' => nomatch h'⟩

omit hJ in
/-- Where only the reconciler's two KeystoneServices can exist, nothing is left once both are
gone. -/
theorem empty_of_serviceNames {c : Cluster} (hc : c.keystoneServices ⊆ serviceNames X)
    (hgone : ∀ e ∈ keystoneServices X, e.name ∉ c.keystoneServices) :
    c.keystoneServices = ∅ := by
  refine Finset.eq_empty_of_forall_not_mem fun n hn => ?_
  have hname := hc hn
  simp only [serviceNames, Finset.mem_insert, Finset.mem_singleton] at hname
  rcases hname with rfl | rfl
  · exact hgone _ (List.mem_cons_self _ _) hn
  · exact hgone _ (List.mem_cons_of_mem _ (List.mem_singleton_self _)) hn

/-- **`reconcileDelete` deletes before it lets go**, given what `Reconcile` guarantees it: a
non-`nil` `Status.APIEndpoints`, so that its guard lets the deletions run before the finalizer
goes.  It keeps `J` as long as `J` holds of a cluster with no KeystoneService; and where only the
reconciler's two KeystoneServices can exist, when it reports no error, none is left. -/
theorem reconcileDelete_spec (hJ₀ : ∀ c, c.keystoneServices = ∅ → J c) :
    Triple (fun i c => J c ∧ c.keystoneServices ⊆ serviceNames X ∧
        i.status.apiEndpoints.isSome) (reconcileDelete X)
      (fun r _ c => J c ∧ (r.2 = none → c.keystoneServices = ∅)) := by
  unfold reconcileDelete
  refine Triple.bind (Triple.get (Q := fun inst _ c => J c ∧ c.keystoneServices ⊆ serviceNames X ∧
    inst.status.apiEndpoints.isSome) fun _ _ h => h) fun inst => ?_
  dsimp only
  split
  · refine Triple.bind ((deleteKeystoneServices_spec hJ (keystoneServices X) (serviceNames X)).mono
      (S := fun r _ c => J c ∧ (r = none → c.keystoneServices = ∅))
      (fun _ _ h => ⟨h.1, h.2.1⟩)
      fun _ _ _ h => ⟨h.1, fun hr => empty_of_serviceNames h.2.1 (h.2.2 hr)⟩) fun r => ?_
    rcases r with _ | err
    · refine (Keeps.triple (J := fun c => c.keystoneServices = ∅) ?_).mono
        (fun _ _ h => h.2 rfl) fun _ _ _ h => ⟨hJ₀ _ h, fun _ => h⟩
      repeat' first
        | exact Keeps.pure
        | exact Keeps.modify
        | exact update_empty
        | refine Keeps.bind ?_ fun _ => ?_
        | split
    · exact Triple.pure fun _ _ h => ⟨h.1, fun h' => nomatch h'⟩
  · next hnone => exact fun _ _ _ _ _ h _ => absurd h.2.2 hnone

end Deletion

theorem noOrphan_of_empty {c : Cluster} (h : c.keystoneServices = ∅) : NoOrphan X c :=
  fun n hn => absurd hn (h ▸ Finset.not_mem_empty n)

/-- **A successful deletion leaves no registration.**  From a cluster whose KeystoneServices are
all among the reconciler's V2 and V3 one, and with the non-`nil` `Status.APIEndpoints` that
`Reconcile` hands it, a `reconcileDelete` that reports no error has deleted every
KeystoneService. -/
theorem reconcileDelete_clears :
    Triple (fun i c => c.keystoneServices ⊆ serviceNames X ∧ i.status.apiEndpoints.isSome)
      (reconcileDelete X) (fun r _ c => r.2 = none → c.keystoneServices = ∅) :=
  (reconcileDelete_spec (J := fun _ => True) (fun _ _ _ _ => trivial) fun _ _ => trivial).mono
    (fun _ _ h => ⟨trivial, h⟩) fun _ _ _ h => h.2

/-! ## The pass, and every run -/

theorem keeps_patchStatus (before inst : CinderAPI) : (patchStatus before inst).Keeps (NoOrphan X) := by
  unfold patchStatus
  refine Prog.Keeps.bind (Prog.Keeps.frame NoOrphan.stable fun _ _ _ h => h.1) fun r => ?_
  repeat' first
    | exact Prog.Keeps.pure
    | exact Prog.Keeps.send fun _ _ _ _ hc hi hs =>
        (hc.tame hi.tame).tame (tame_statusPatch before inst _ _ _ hs : Tame X _ _)
    | refine Prog.Keeps.bind ?_ fun _ => ?_
    | split

/-- **A pass of `Reconcile` makes no orphan.** -/
theorem keeps_reconcile (req : NamespacedName) : (reconcile X req).Keeps (NoOrphan X) := by
  have hdelete (o : CinderAPI) : ((reconcileDelete X).run o.initStatus).Keeps (NoOrphan X) :=
    ((reconcileDelete_spec (J := NoOrphan X) (fun _ _ h ht => h.tame ht) fun _ h =>
      noOrphan_of_empty h).mono (fun _ _ h => h) fun _ _ _ h => h.1).keeps_run
        fun _ h => ⟨h, fun n hn => (h n hn).1, rfl⟩
  unfold reconcile
  refine Prog.Keeps.bind (Prog.Keeps.frame NoOrphan.stable fun _ _ _ h => h.1) fun r => ?_
  repeat' first
    | exact Prog.Keeps.pure
    | exact Prog.Keeps.frame NoOrphan.stable fun _ _ _ h => h
    | exact keeps_patchStatus _ _
    | exact hdelete _
    | exact keeps_reconcileNormal _
    | refine Prog.Keeps.bind ?_ fun _ => ?_
    | split

/-- The states reachable from one with no KeystoneService: passes of `Reconcile`, on any request,
and steps of others, in any order. -/
inductive Reachable (X : Externals) : Cluster → Prop
  | init {c : Cluster} : c.keystoneServices = ∅ → Reachable X c
  | pass {c c' : Cluster} (req : NamespacedName) {res : Result × Option Error} :
      Reachable X c → Runs c (reconcile X req) res c' → Reachable X c'
  | user {c c' : Cluster} : Reachable X c → UserStep c c' → Reachable X c'

theorem Reachable.noOrphan {c : Cluster} (h : Reachable X c) : NoOrphan X c := by
  induction h with
  | init h => exact noOrphan_of_empty h
  | pass req _ hr ih => exact keeps_reconcile req ih hr
  | user _ hs ih => exact NoOrphan.stable hs ih

/-- **No orphaned identity-service registration.**  In every state a run reaches, every
KeystoneService that exists is the V2 or the V3 one, and its CinderAPI is there, carrying the
controller's finalizer: the finalizer never goes while a registration survives. -/
theorem no_orphaned_registration {c : Cluster} (h : Reachable X c) :
    ∀ n ∈ c.keystoneServices,
      n ∈ serviceNames X ∧ ∃ o, c.cinderAPI = some o ∧ X.finalizer ∈ o.finalizers :=
  h.noOrphan

/-- After the registering pass from the cluster where the sample CinderAPI has just been
created, both KeystoneServices exist, and each is held: the object is there with the
finalizer. -/
theorem no_orphaned_registration_registered :
    ∃ c, Reachable .sample c ∧ c.keystoneServices = {"cinderv2", "cinderv3"} ∧
      ∀ n ∈ c.keystoneServices, n ∈ serviceNames .sample ∧
        ∃ o, c.cinderAPI = some o ∧ Externals.sample.finalizer ∈ o.finalizers :=
  let ⟨c, hr, hk, _⟩ := sample_pass_registers
  have h : Reachable .sample c := .pass _ (.init rfl) hr.runs
  ⟨c, h, hk, no_orphaned_registration h⟩

end CinderOperator
