import CinderOperator.Controller.Reconcile

/-!
# What a pass can do

The invariant of `Properties/Orphans` and the facts of `Properties/Handlers` are about every run,
and a reconciler that never registered or deleted anything would satisfy them too.  This module
shows the other direction: `Reconcile` can do its work.  Each result is a run in which every
collaborator succeeds and nobody else acts (`SoloRuns`, `Framework/Cluster`).

* `reconcile_registers`: on a CinderAPI not being deleted, the pass ends with no error and no
  requeue, with the V2 and the V3 KeystoneService in place.  The one thing assumed is that
  hashing the inputs succeeds, which lib-common's `ObjectHash` does unless the environment cannot
  be marshalled.
* `reconcile_deletes`: on a CinderAPI being deleted that no other finalizer holds, the pass ends
  with no error, both KeystoneServices deleted and the object gone.

The lemmas are stated over `Can` (`Framework/Triple`), one per part of the code, each in
continuation style: the part can end in `Q` if `Q` holds everywhere the successful path may
leave it.  `update_can` and `statusUpdate_can` are the client wrappers, succeeding on a request
that carries the stored resourceVersion; `generateServiceConfigMaps_can`,
`createHashOfInputHashes_can`, `registerKeystoneServices_can`, `reconcileInit_can` and
`deleteKeystoneServices_can` are the helpers; `reconcileNormal_can` and `reconcileDelete_can`
are the handlers; `patchStatus_runs` is the deferred status patch, and `reconcile_runs_handler`
the pass around the handler.  `reconcile_normal_run` and `reconcile_delete_run` are the
registering and the deleting pass, with what they leave of the object; `Properties/Converge`
builds on them.
-/

namespace CinderOperator

variable {c : Cluster} {i : CinderAPI}

/-! ## The client wrappers -/

/-- `Update` succeeds on a request that carries the stored resourceVersion, and the local
instance becomes the stored object. -/
theorem update_can {cur : CinderAPI} {Q : Option Error → CinderAPI → Cluster → Prop}
    (hi : c.cinderAPI = some cur) (hrv : cur.resourceVersion = i.resourceVersion)
    (h : Q none (c.stamp (cur.updatedBy i)) (c.commit (cur.updatedBy i))) : Can c update i Q := by
  unfold update
  refine Can.bind (Can.get (Can.bind (Can.send (.ok _) (.inr ⟨cur, hi, hrv, rfl, .inl rfl⟩) ⟨_, rfl⟩ ?_)))
  exact Can.bind (Can.set (Can.pure h))

/-- `Status().Update` succeeds likewise. -/
theorem statusUpdate_can {cur : CinderAPI} {Q : Option Error → CinderAPI → Cluster → Prop}
    (hi : c.cinderAPI = some cur) (hrv : cur.resourceVersion = i.resourceVersion)
    (h : Q none (c.stamp (cur.withStatus i.status)) (c.commit (cur.withStatus i.status))) :
    Can c statusUpdate i Q := by
  unfold statusUpdate
  refine Can.bind (Can.get (Can.bind (Can.send (.ok _) (.inr ⟨cur, hi, hrv, rfl, .inl rfl⟩) ⟨_, rfl⟩ ?_)))
  exact Can.bind (Can.set (Can.pure h))

/-! ## The helpers -/

variable {X : Externals}

/-- `generateServiceConfigMaps` returns no error on the path where `EnsureConfigMaps` succeeds. -/
theorem generateServiceConfigMaps_can (envVars : StrMap)
    {Q : Option Error × StrMap → CinderAPI → Cluster → Prop}
    (h : ∀ envVars', Q (none, envVars') i c) :
    Can c (generateServiceConfigMaps X envVars) i Q := by
  unfold generateServiceConfigMaps
  obtain ⟨order, hord⟩ := Quot.exists_rep i.spec.defaultConfigOverwrite.entries
  exact Can.bind (Can.get (Can.bind (Can.send order ⟨rfl, hord⟩ trivial
    (Can.bind (Can.send (.ok []) rfl ⟨_, rfl⟩ (Can.pure (h _)))))))

/-- With the hash computed, `createHashOfInputHashes` succeeds from a local instance that is the
stored object, whether or not it has to store a new hash: the cluster is left as it was, or
with a new status on the object. -/
theorem createHashOfInputHashes_can {envVars : StrMap}
    {Q : String × Option Error → CinderAPI → Cluster → Prop}
    (hX : (X.objectHash envVars).2 = none) (hi : c.cinderAPI = some i)
    (h : ∀ i' c', (c' = c ∨ ∃ s, c' = c.commit (i.withStatus s)) →
      Q ((X.objectHash envVars).1, none) i' c') :
    Can c (createHashOfInputHashes X envVars) i Q := by
  unfold createHashOfInputHashes
  rcases hh : X.objectHash envVars with ⟨hash, err⟩
  rw [hh] at hX h
  subst hX
  refine Can.bind (Can.pure (Can.bind (Can.get ?_)))
  rcases setHash (i.status.hash.getD ∅) X.inputHashName hash with ⟨hashMap, _ | _⟩
  · exact Can.bind (Can.pure (Can.pure (h i c (.inl rfl))))
  · exact Can.bind (Can.modify (Can.bind (statusUpdate_can hi rfl
      (Can.bind (Can.pure (Can.pure (h _ _ (.inr ⟨_, rfl⟩))))))))

/-- The registration loop can register every row of its list. -/
theorem registerKeystoneServices_can (serviceLabels : StrMap)
    {Q : Result × Option Error → CinderAPI → Cluster → Prop} :
    ∀ (l : List KeystoneServiceEntry) {c : Cluster} {i : CinderAPI},
      (∀ i' c', c'.cinderAPI = c.cinderAPI →
        c'.keystoneServices = c.keystoneServices ∪ (l.map (·.name)).toFinset → Q ({}, none) i' c') →
      Can c (registerKeystoneServices serviceLabels l) i Q
  | [], c, i, h => Can.pure (h i c rfl (by simp))
  | e :: rest, c, i, h => by
    refine Can.bind (Can.get (Can.bind (Can.send ({}, none, "") ⟨.inr rfl, fun _ => rfl⟩ ⟨rfl, rfl⟩ ?_)))
    exact Can.bind (Can.pure (Can.bind (Can.modify (registerKeystoneServices_can serviceLabels
      rest fun i' c' ho hc => h i' c' ho (by simp [hc])))))

/-- `reconcileInit` can expose both endpoints, find the secret and register both rows, leaving
the object alone. -/
theorem reconcileInit_can (serviceLabels : StrMap)
    {Q : Result × Option Error → CinderAPI → Cluster → Prop}
    (h : ∀ i' c', c'.cinderAPI = c.cinderAPI → c'.keystoneServices =
      c.keystoneServices ∪ ((keystoneServices X).map (·.name)).toFinset → Q ({}, none) i' c') :
    Can c (reconcileInit X serviceLabels) i Q := by
  unfold reconcileInit
  refine Can.bind (Can.send (∅, {}, none) rfl rfl (Can.bind (Can.pure (Can.bind (Can.modify ?_)))))
  refine Can.bind (Can.send (∅, {}, none) rfl rfl (Can.bind (Can.pure (Can.bind (Can.modify ?_)))))
  refine Can.bind (Can.get (Can.bind (Can.send (.ok ("", "")) rfl ⟨_, rfl⟩ ?_)))
  exact Can.bind (Can.pure (Can.bind (Can.modify (registerKeystoneServices_can serviceLabels _ h))))

/-! ## The handlers -/

/-- A write of a state that carries the controller's finalizer stores it. -/
theorem commit_holds {c : Cluster} {o : CinderAPI} {d : Bool} (hd : o.isDeleting = d)
    (hf : X.finalizer ∈ o.finalizers) :
    ∃ o', (c.commit o).cinderAPI = some o' ∧ o'.isDeleting = d ∧ X.finalizer ∈ o'.finalizers :=
  ⟨_, Cluster.commit_cinderAPI_of_mem hf, hd, hf⟩

/-- `reconcileNormal` can succeed from the status `Reconcile` initialises, registering both
KeystoneServices: the finalizer update carries the stored resourceVersion, and the object it
stores carries the finalizer, so the status update of the input hash finds it too.  The object
keeps the finalizer, and its deletion state, to the end. -/
theorem reconcileNormal_can (hX : ∀ envVars, (X.objectHash envVars).2 = none) {o : CinderAPI}
    (ho : c.cinderAPI = some o) {Q : Result × Option Error → CinderAPI → Cluster → Prop}
    (h : ∀ i' c', c'.keystoneServices =
      c.keystoneServices ∪ ((keystoneServices X).map (·.name)).toFinset →
      (∃ o', c'.cinderAPI = some o' ∧ o'.isDeleting = o.isDeleting ∧ X.finalizer ∈ o'.finalizers) →
      Q ({}, none) i' c') :
    Can c (reconcileNormal X) o.initStatus Q := by
  unfold reconcileNormal
  have hf := CinderAPI.mem_addFinalizer o.initStatus X.finalizer
  refine Can.bind (Can.modify (Can.bind (update_can ho rfl ?_)))
  refine Can.bind (Can.pure (Can.bind (Can.get (Can.bind
    (Can.send (Except.ok ("", "") : Except Error (String × String)) rfl ⟨_, rfl⟩ ?_)))))
  refine Can.bind (Can.pure (Can.bind (generateServiceConfigMaps_can _ fun _ => ?_)))
  refine Can.bind (Can.pure (Can.bind (Can.get (Can.bind
    (Can.send (Except.ok [] : Except Error (List String)) rfl ⟨_, rfl⟩ ?_)))))
  refine Can.bind (Can.pure (Can.bind (createHashOfInputHashes_can (hX _)
    (Cluster.commit_cinderAPI_of_mem hf) fun _ c₁ hc₁ => ?_)))
  refine Can.bind (Can.pure (Can.bind (reconcileInit_can _ fun _ c₂ ho₂ hk₂ => ?_)))
  -- the `reconcileUpdate` and `reconcileUpgrade` hooks, then the Deployment
  refine Can.bind (Can.pure (Can.bind (Can.pure (Can.bind (Can.pure (Can.bind (Can.pure
    (Can.bind (Can.pure (Can.bind (Can.get (Can.bind (Can.send ({}, none, 0) rfl ⟨rfl, rfl⟩ ?_)))))))))))))
  refine Can.bind (Can.pure (Can.bind (Can.modify (Can.pure (h _ _ ?_ ?_)))))
  · rcases hc₁ with rfl | ⟨s, rfl⟩ <;> simp [hk₂]
  · rw [ho₂]
    rcases hc₁ with rfl | ⟨s, rfl⟩ <;> exact commit_holds (by simp) (by simpa using hf)

/-- The deletion loop can delete the KeystoneService of every row of its list. -/
theorem deleteKeystoneServices_can {Q : Option Error → CinderAPI → Cluster → Prop} :
    ∀ (l : List KeystoneServiceEntry) {c : Cluster},
      (∀ c', c'.cinderAPI = c.cinderAPI →
        c'.keystoneServices = c.keystoneServices \ (l.map (·.name)).toFinset → Q none i c') →
      Can c (deleteKeystoneServices l) i Q
  | [], c, h => Can.pure (h c rfl (by simp))
  | e :: rest, c, h => by
    refine Can.bind (Can.get (Can.bind (Can.send none ⟨.inr rfl, fun _ => rfl⟩ rfl ?_)))
    exact deleteKeystoneServices_can rest fun c' hc hk => h c' hc (by
      simp [hk, Finset.sdiff_insert, Finset.erase_sdiff_comm])

/-- `reconcileDelete` can delete both KeystoneServices and, on an object that no other
finalizer holds, remove the object with its finalizer. -/
theorem reconcileDelete_can {o : CinderAPI} (ho : c.cinderAPI = some o)
    (hd : o.isDeleting = true) (hfin : ∀ f ∈ o.finalizers, f = X.finalizer)
    {Q : Result × Option Error → CinderAPI → Cluster → Prop}
    (h : ∀ i' c', c'.cinderAPI = none →
      c'.keystoneServices = c.keystoneServices \ ((keystoneServices X).map (·.name)).toFinset →
      Q ({}, none) i' c') :
    Can c (reconcileDelete X) o.initStatus Q := by
  unfold reconcileDelete
  have hnil : (o.initStatus.removeFinalizer X.finalizer).finalizers = [] := by
    simpa [CinderAPI.removeFinalizer] using hfin
  refine Can.bind (Can.get (Can.bind (deleteKeystoneServices_can _ fun c₁ hc₁ hk₁ => ?_)))
  exact Can.bind (Can.pure (Can.bind (Can.modify (Can.bind (update_can (hc₁.trans ho) rfl
    (Can.bind (Can.pure (Can.pure (h _ _ (Cluster.commit_cinderAPI_of_deleting hd hnil) hk₁)))))))))

/-! ## The pass -/

/-- The deferred status patch can run with `SetAfter` and the patch succeeding: it writes the
instance's status over the stored object, or finds the object gone, or has nothing to write. -/
theorem patchStatus_runs (before inst : CinderAPI) (c : Cluster) :
    ∃ c', SoloRuns c (patchStatus before inst) () c' ∧
      (c' = c ∨ ∃ cur, c.cinderAPI = some cur ∧ c' = c.commit (cur.withStatus inst.status)) := by
  unfold patchStatus
  cases hch : decide (inst.status ≠ before.status)
  · have hset : Call.Step (.setAfter before inst) c (none, false) c := ⟨rfl, fun _ => hch.symm⟩
    exact ⟨c, .call hset rfl (.pure _ _), .inl rfl⟩
  have hset : Call.Step (.setAfter before inst) c (none, true) c := ⟨rfl, fun _ => hch.symm⟩
  rcases hcur : c.cinderAPI with _ | cur
  · have hpatch : Call.Step (.statusPatch before inst) c (some .notFound) c := .inl rfl
    exact ⟨c, .call hset rfl (.call hpatch (.inr rfl) (.pure _ _)), .inl rfl⟩
  · have hpatch : Call.Step (.statusPatch before inst) c none
        (c.commit (cur.withStatus inst.status)) := .inr ⟨cur, _, hcur, rfl⟩
    exact ⟨_, .call hset rfl (.call hpatch (.inl rfl) (.pure _ _)), .inr ⟨cur, rfl, rfl⟩⟩

/-- A pass whose `Get` finds no object ends at once, with no error and no requeue. -/
theorem reconcile_runs_notFound (req : NamespacedName) (ho : c.cinderAPI = none) :
    SoloRuns c (reconcile X req) ({}, none) c :=
  .call ⟨rfl, .inl ⟨_, List.mem_cons_self _ _, by rw [ho]⟩⟩ (by rw [Call.Succeeds, ho]) (.pure _ _)

/-- A pass runs the handler `Reconcile` picks for the object `Get` returns, with its status
initialised, once the helper is built; then it patches the status and returns the handler's
result. -/
theorem reconcile_runs_handler (req : NamespacedName) {o : CinderAPI} (ho : c.cinderAPI = some o)
    {res : Result × Option Error} {i' : CinderAPI} {c₁ : Cluster}
    (h : SoloRuns c ((if o.initStatus.isDeleting then reconcileDelete X else reconcileNormal X).run
      o.initStatus) (res, i') c₁) :
    ∃ c', SoloRuns c (reconcile X req) res c' ∧
      (c' = c₁ ∨ ∃ cur, c₁.cinderAPI = some cur ∧ c' = c₁.commit (cur.withStatus i'.status)) := by
  obtain ⟨c', hp, hc'⟩ := patchStatus_runs o.initStatus i' c₁
  refine ⟨c', .call ⟨rfl, .inl ⟨_, List.mem_cons_self _ _, by rw [ho]⟩⟩ (by rw [Call.Succeeds, ho]) ?_, hc'⟩
  refine .call (show Call.Step (.newHelper _) _ none _ from rfl) rfl ?_
  exact SoloRuns.bind (.pure _ _) (SoloRuns.bind (.pure _ _)
    (SoloRuns.bind h (SoloRuns.bind hp (.pure _ _))))

/-- **The registering pass.**  Over an object that is not being deleted, when hashing the inputs
succeeds, a pass in which nobody else acts and every call succeeds ends with no error and no
requeue; it has registered both KeystoneServices, and the object is there, still not being
deleted and held by the finalizer. -/
theorem reconcile_normal_run (hX : ∀ envVars, (X.objectHash envVars).2 = none)
    (req : NamespacedName) {o : CinderAPI} (ho : c.cinderAPI = some o) (hd : o.isDeleting = false) :
    ∃ c', SoloRuns c (reconcile X req) ({}, none) c' ∧
      c'.keystoneServices = c.keystoneServices ∪ ((keystoneServices X).map (·.name)).toFinset ∧
      ∃ o', c'.cinderAPI = some o' ∧ o'.isDeleting = false ∧ X.finalizer ∈ o'.finalizers := by
  obtain ⟨_, _, c₁, hrun, rfl, hk₁, o₁, ho₁, hd₁, hf₁⟩ := reconcileNormal_can hX ho
    (Q := fun r _ c' => r = ({}, none) ∧
      c'.keystoneServices = c.keystoneServices ∪ ((keystoneServices X).map (·.name)).toFinset ∧
      ∃ o', c'.cinderAPI = some o' ∧ o'.isDeleting = o.isDeleting ∧ X.finalizer ∈ o'.finalizers)
    fun _ _ hk ho' => ⟨rfl, hk, ho'⟩
  obtain ⟨c', hr, hc'⟩ := reconcile_runs_handler req ho
    (by simpa only [CinderAPI.initStatus_isDeleting, hd, Bool.false_eq_true, ite_false])
  refine ⟨c', hr, ?_⟩
  rcases hc' with rfl | ⟨cur, hcur, rfl⟩
  · exact ⟨hk₁, o₁, ho₁, hd₁.trans hd, hf₁⟩
  · obtain rfl : o₁ = cur := Option.some.inj (ho₁.symm.trans hcur)
    exact ⟨hk₁, commit_holds (by simpa using hd₁.trans hd) (by simpa using hf₁)⟩

/-- **A pass can register both KeystoneServices.**  From every cluster holding a CinderAPI that
is not being deleted, and when hashing the inputs succeeds, `Reconcile` has a run in which nobody
else acts and every collaborator succeeds, that ends with no error and no requeue; after it the
KeystoneServices are those there were, and the V2 and the V3 one. -/
theorem reconcile_registers (hX : ∀ envVars, (X.objectHash envVars).2 = none)
    (req : NamespacedName) {o : CinderAPI} (ho : c.cinderAPI = some o)
    (hdt : o.deletionTimestamp = none) :
    ∃ c', SoloRuns c (reconcile X req) ({}, none) c' ∧
      c'.keystoneServices = c.keystoneServices ∪ ((keystoneServices X).map (·.name)).toFinset :=
  let ⟨c', hr, hk, _⟩ := reconcile_normal_run hX req ho (by simp [CinderAPI.isDeleting, hdt])
  ⟨c', hr, hk⟩

/-- The sample CinderAPI, alone in a cluster with no KeystoneService: a pass registers
`cinderv2` and `cinderv3`. -/
theorem reconcile_registers_sample :
    let o := CinderAPI.sample (.sample "" ∅)
    let c : Cluster := ⟨some o, [], 1, ∅⟩
    (∀ envVars, (Externals.sample.objectHash envVars).2 = none) ∧ c.cinderAPI = some o ∧
      o.deletionTimestamp = none ∧
      ∃ c', SoloRuns c (reconcile .sample ⟨o.ns, o.name⟩) ({}, none) c' ∧
        c'.keystoneServices = {"cinderv2", "cinderv3"} :=
  let ⟨c', hr, hk⟩ := reconcile_registers (X := .sample) (fun _ => rfl) ⟨"openstack", "cinder-api"⟩
    (c := ⟨some (.sample (.sample "" ∅)), [], 1, ∅⟩) rfl rfl
  ⟨fun _ => rfl, rfl, rfl, c', hr, hk.trans (by decide)⟩

/-- The registering pass from the cluster where the sample CinderAPI has just been created: both
KeystoneServices are there after it, and the object is held by the finalizer. -/
theorem sample_pass_registers :
    ∃ c', SoloRuns ⟨some (CinderAPI.sample (.sample "" ∅)), [], 1, ∅⟩
        (reconcile .sample ⟨"openstack", "cinder-api"⟩) ({}, none) c' ∧
      c'.keystoneServices = {"cinderv2", "cinderv3"} ∧
      ∃ o', c'.cinderAPI = some o' ∧ o'.isDeleting = false ∧
        Externals.sample.finalizer ∈ o'.finalizers :=
  let ⟨c', hr, hk, ho'⟩ := reconcile_normal_run (X := .sample) (fun _ => rfl) _
    (c := ⟨some (.sample (.sample "" ∅)), [], 1, ∅⟩) rfl rfl
  ⟨c', hr, hk.trans (by decide), ho'⟩

/-- **The deleting pass.**  Over an object being deleted that no other finalizer holds, a pass in
which nobody else acts and every call succeeds ends with no error and no requeue; the status
patch finds the object gone, which the code lets pass, and the V2 and V3 KeystoneServices are
deleted. -/
theorem reconcile_delete_run (req : NamespacedName) {o : CinderAPI} (ho : c.cinderAPI = some o)
    (hd : o.isDeleting = true) (hfin : ∀ f ∈ o.finalizers, f = X.finalizer) :
    ∃ c', SoloRuns c (reconcile X req) ({}, none) c' ∧ c'.cinderAPI = none ∧
      c'.keystoneServices = c.keystoneServices \ ((keystoneServices X).map (·.name)).toFinset := by
  obtain ⟨_, _, c₁, hrun, rfl, hc₁, hk₁⟩ := reconcileDelete_can ho hd hfin
    (Q := fun r _ c' => r = ({}, none) ∧ c'.cinderAPI = none ∧
      c'.keystoneServices = c.keystoneServices \ ((keystoneServices X).map (·.name)).toFinset)
    fun _ _ h₁ h₂ => ⟨rfl, h₁, h₂⟩
  obtain ⟨c', hr, hc'⟩ := reconcile_runs_handler req ho
    (by simpa only [CinderAPI.initStatus_isDeleting, hd, ite_true])
  rcases hc' with rfl | ⟨cur, hcur, -⟩
  · exact ⟨_, hr, hc₁, hk₁⟩
  · simp [hc₁] at hcur

/-- **A pass can finish a deletion.**  From every cluster holding a CinderAPI that is being
deleted and that no other finalizer holds, `Reconcile` has a run in which nobody else acts and
every collaborator succeeds (the status patch finding the object gone, which the code lets
pass), that ends with no error and no requeue; after it the object is gone and so are the V2
and the V3 KeystoneService, and every other KeystoneService is left alone. -/
theorem reconcile_deletes (req : NamespacedName) {o : CinderAPI} (ho : c.cinderAPI = some o)
    (hd : o.isDeleting = true) (hfin : ∀ f ∈ o.finalizers, f = X.finalizer) :
    ∃ c', SoloRuns c (reconcile X req) ({}, none) c' ∧ c'.cinderAPI = none ∧
      c'.keystoneServices = c.keystoneServices \ ((keystoneServices X).map (·.name)).toFinset :=
  reconcile_delete_run req ho hd hfin

/-- The sample CinderAPI being deleted, held only by the controller's finalizer, with both
KeystoneServices registered: a pass removes all three. -/
theorem reconcile_deletes_sample :
    let o : CinderAPI := { CinderAPI.sample (.sample "" ∅) with
      finalizers := ["cinderapi"], deletionTimestamp := some 5 }
    let c : Cluster := ⟨some o, [], 1, {"cinderv2", "cinderv3"}⟩
    c.cinderAPI = some o ∧ o.isDeleting = true ∧
      (∀ f ∈ o.finalizers, f = Externals.sample.finalizer) ∧
      ∃ c', SoloRuns c (reconcile .sample ⟨o.ns, o.name⟩) ({}, none) c' ∧ c'.cinderAPI = none ∧
        c'.keystoneServices = ∅ :=
  have hfin : ∀ f ∈ ["cinderapi"], f = Externals.sample.finalizer := by decide
  let ⟨c', hr, hc, hk⟩ := reconcile_deletes (X := .sample) ⟨"openstack", "cinder-api"⟩
    (c := ⟨some { CinderAPI.sample (.sample "" ∅) with
      finalizers := ["cinderapi"], deletionTimestamp := some 5 }, [], 1, {"cinderv2", "cinderv3"}⟩)
    rfl rfl hfin
  ⟨rfl, rfl, hfin, c', hr, hc, hk.trans (by decide)⟩

end CinderOperator
