import CinderOperator.Properties.Orphans

/-!
# What the controller is for

`Converged` states the purpose of the reconciler once: a CinderAPI that is not being deleted
carries the controller's finalizer and has its V2 and V3 KeystoneServices, and without a
CinderAPI no KeystoneService is left.  An object being deleted is on its way from the one to the
other.

`reconcile_converges` connects it to the code: from every state a run reaches (`Reachable`, of
`Properties/Orphans`), one pass in which nobody else acts and every collaborator succeeds gets
there.  It is put together from the two runs of `Properties/Progress`, the registering pass
`reconcile_normal_run` and the deleting pass `reconcile_delete_run`, and from the invariant
`NoOrphan`, which is what rules out a KeystoneService the deletion would not remove, or one with
no object at all.
-/

namespace CinderOperator

variable {X : Externals}

/-- **The state the controller works towards.**  A CinderAPI that is not being deleted carries
the controller's finalizer and has its V2 and V3 KeystoneServices; with no CinderAPI there is no
KeystoneService.  An object being deleted is on its way from the one to the other. -/
def Converged (X : Externals) (c : Cluster) : Prop :=
  match c.cinderAPI with
  | some o => o.isDeleting = false ∧ X.finalizer ∈ o.finalizers ∧ serviceNames X ⊆ c.keystoneServices
  | none => c.keystoneServices = ∅

instance (c : Cluster) : Decidable (Converged X c) :=
  match h : c.cinderAPI with
  | some o => decidable_of_iff
      (o.isDeleting = false ∧ X.finalizer ∈ o.finalizers ∧ serviceNames X ⊆ c.keystoneServices)
      (by simp only [Converged, h])
  | none => decidable_of_iff (c.keystoneServices = ∅) (by simp only [Converged, h])

/-- A CinderAPI just created, with nothing registered, is not converged yet. -/
example : ¬ Converged .sample ⟨some (CinderAPI.sample (.sample "" ∅)), [], 1, ∅⟩ := by decide

/-- The names of `keystoneServices` are the reconciler's service names. -/
theorem keystoneServices_names :
    ((keystoneServices X).map (·.name)).toFinset = serviceNames X := by
  simp [keystoneServices, serviceNames]

/-- **A pass can always converge.**  From every state a run reaches, when hashing the inputs
succeeds and no finalizer but the controller's holds an object being deleted, `Reconcile` has a
run in which nobody else acts and every collaborator succeeds, that ends with no error and no
requeue in the converged state.  A live CinderAPI ends with its finalizer and both
KeystoneServices; one being deleted is gone, and so is every KeystoneService, since in a
reachable state only the object's own two can be registered; with no CinderAPI, `Get` finds
nothing and the pass ends at once, for nothing can be registered. -/
theorem reconcile_converges (hX : ∀ envVars, (X.objectHash envVars).2 = none) {c : Cluster}
    (hc : Reachable X c) (hfin : ∀ o, c.cinderAPI = some o → o.isDeleting = true →
      ∀ f ∈ o.finalizers, f = X.finalizer) (req : NamespacedName) :
    ∃ c', SoloRuns c (reconcile X req) ({}, none) c' ∧ Converged X c' := by
  have hno := hc.noOrphan
  rcases ho : c.cinderAPI with _ | o
  · -- no object: `Get` reads NotFound, and nothing can be registered
    refine ⟨c, reconcile_runs_notFound req ho, ?_⟩
    simp only [Converged, ho]
    refine Finset.eq_empty_of_forall_not_mem fun n hn => ?_
    obtain ⟨_, o, ho', _⟩ := hno n hn
    simp [ho] at ho'
  cases hd : o.isDeleting
  · -- a live object: the registering pass
    obtain ⟨c', hr, hk', o', ho', hd', hf'⟩ := reconcile_normal_run hX req ho hd
    refine ⟨c', hr, ?_⟩
    simp only [Converged, ho', hd', hf', hk', keystoneServices_names, true_and]
    exact Finset.subset_union_right
  · -- an object being deleted: the deleting pass, after which the patch finds it gone
    obtain ⟨c', hr, hc', hk'⟩ := reconcile_delete_run req ho hd (hfin o ho hd)
    refine ⟨c', hr, ?_⟩
    simp only [Converged, hc', hk', keystoneServices_names, Finset.sdiff_eq_empty_iff_subset]
    exact fun n hn => (hno n hn).1

/-- The sample CinderAPI, just created in a cluster with no KeystoneService: a pass
converges. -/
theorem reconcile_converges_fresh :
    let c : Cluster := ⟨some (CinderAPI.sample (.sample "" ∅)), [], 1, ∅⟩
    (∀ envVars, (Externals.sample.objectHash envVars).2 = none) ∧ Reachable .sample c ∧
      (∀ o, c.cinderAPI = some o → o.isDeleting = true →
        ∀ f ∈ o.finalizers, f = Externals.sample.finalizer) ∧
      ∃ c', SoloRuns c (reconcile .sample ⟨"openstack", "cinder-api"⟩) ({}, none) c' ∧
        Converged .sample c' :=
  have hfin : ∀ o, some (CinderAPI.sample (.sample "" ∅)) = some o → o.isDeleting = true →
      ∀ f ∈ o.finalizers, f = Externals.sample.finalizer := by
    rintro o ⟨⟩ hd
    cases hd
  ⟨fun _ => rfl, .init rfl, hfin, reconcile_converges (fun _ => rfl) (.init rfl) hfin _⟩

end CinderOperator
