import CinderOperator.Framework.Prog

/-!
# The cluster a reconcile pass runs against

`Cluster` is the part of the world the reconciler's bookkeeping is about: the CinderAPI object
the requests name (absent, or present with its resourceVersion, finalizers, deletion timestamp
and status), every earlier state of it (what a stale cache may still serve), the API server's
revision counter, and the KeystoneService objects that exist, which stand for the
identity-service registrations.  ConfigMaps, Services, Routes and Deployments are not tracked:
nothing the controller decides depends on them except through the replies of the calls that
manage them, and those replies are left open.

`Call.Step c op r c'` is the contract of each collaborator: from cluster `c` the call `op` may
reply `r` and leave `c'`.

* `Get` serves the current object or any earlier state of it (a stale cache), or fails.
* `Update` and `Status().Update` take effect only when the request carries the stored
  resourceVersion; either may fail, having taken effect or not.
* The deferred `Status().Patch` carries no resourceVersion; the merged status is the server's
  business, so the model leaves it open and fixes only that metadata and spec stay.
* A KeystoneService `CreateOrPatch` that returns no error has its object in place; a failing one
  may or may not have created it.  A `Delete` that returns no error has removed it; a failing one
  may or may not have.
* `SetAfter` reports, when it succeeds, whether the status differs from the helper's `before`
  object.
* Every other call leaves the tracked cluster alone and may reply anything.

`UserStep` is what others do meanwhile: create the object, edit its spec, delete it, or remove a
KeystoneService.  `Runs c p a c'` is a run of the program `p` from `c` to `c'` with result `a`,
in which any number of user steps may come before each call.
-/

namespace CinderOperator

/-- The tracked part of the cluster. -/
structure Cluster where
  /-- The CinderAPI object the reconcile requests name, if it exists. -/
  cinderAPI : Option CinderAPI
  /-- Its earlier states, newest first. -/
  history : List (Option CinderAPI)
  /-- The last resourceVersion the API server handed out. -/
  revision : Nat
  /-- The KeystoneService objects that exist, by name. -/
  keystoneServices : Finset String

namespace Cluster

/-- `o` with the next resourceVersion. -/
def stamp (c : Cluster) (o : CinderAPI) : CinderAPI := { o with resourceVersion := c.revision + 1 }

/-- The API server stores `o` as the object's next version; an object being deleted that no
finalizer holds any more is removed instead. -/
def commit (c : Cluster) (o : CinderAPI) : Cluster :=
  { c with
    cinderAPI := if (c.stamp o).isDeleting ∧ o.finalizers = [] then none else some (c.stamp o)
    history := c.cinderAPI :: c.history
    revision := c.revision + 1 }

/-- A KeystoneService is created (or was already there). -/
def register (c : Cluster) (n : String) : Cluster :=
  { c with keystoneServices := insert n c.keystoneServices }

/-- A KeystoneService is removed (or was already gone). -/
def deregister (c : Cluster) (n : String) : Cluster :=
  { c with keystoneServices := c.keystoneServices.erase n }

/-- What a `Get` served from one state of the object returns. -/
def read : Option CinderAPI → Except Error CinderAPI
  | some o => .ok o
  | none => .error .notFound

@[simp] theorem commit_keystoneServices (c : Cluster) (o : CinderAPI) :
    (c.commit o).keystoneServices = c.keystoneServices := rfl

@[simp] theorem register_keystoneServices (c : Cluster) (n : String) :
    (c.register n).keystoneServices = insert n c.keystoneServices := rfl

@[simp] theorem deregister_keystoneServices (c : Cluster) (n : String) :
    (c.deregister n).keystoneServices = c.keystoneServices.erase n := rfl

@[simp] theorem register_cinderAPI (c : Cluster) (n : String) :
    (c.register n).cinderAPI = c.cinderAPI := rfl

@[simp] theorem deregister_cinderAPI (c : Cluster) (n : String) :
    (c.deregister n).cinderAPI = c.cinderAPI := rfl

@[simp] theorem stamp_isDeleting (c : Cluster) (o : CinderAPI) :
    (c.stamp o).isDeleting = o.isDeleting := rfl

@[simp] theorem stamp_finalizers (c : Cluster) (o : CinderAPI) :
    (c.stamp o).finalizers = o.finalizers := rfl

/-- A commit keeps the object while it carries a finalizer. -/
theorem commit_cinderAPI_of_mem {c : Cluster} {o : CinderAPI} {f : String}
    (hf : f ∈ o.finalizers) : (c.commit o).cinderAPI = some (c.stamp o) := by
  have : o.finalizers ≠ [] := List.ne_nil_of_mem hf
  simp [commit, this]

/-- A commit removes an object being deleted that no finalizer holds. -/
theorem commit_cinderAPI_of_deleting {c : Cluster} {o : CinderAPI} (hd : o.isDeleting = true)
    (hf : o.finalizers = []) : (c.commit o).cinderAPI = none := by
  simp [commit, hd, hf]

end Cluster

/-- What `Update` stores: the request's object, with the status and the deletion timestamp the
server already has (the status has its own subresource; the timestamp is only ever the
server's). -/
def CinderAPI.updatedBy (cur req : CinderAPI) : CinderAPI :=
  { req with status := cur.status, deletionTimestamp := cur.deletionTimestamp }

/-- What `Status().Update` stores: the server's object with the request's status. -/
def CinderAPI.withStatus (cur : CinderAPI) (s : CinderAPIStatus) : CinderAPI :=
  { cur with status := s }

@[simp] theorem CinderAPI.updatedBy_finalizers (cur req : CinderAPI) :
    (cur.updatedBy req).finalizers = req.finalizers := rfl

@[simp] theorem CinderAPI.withStatus_finalizers (cur : CinderAPI) (s : CinderAPIStatus) :
    (cur.withStatus s).finalizers = cur.finalizers := rfl

@[simp] theorem CinderAPI.updatedBy_isDeleting (cur req : CinderAPI) :
    (cur.updatedBy req).isDeleting = cur.isDeleting := rfl

@[simp] theorem CinderAPI.withStatus_isDeleting (cur : CinderAPI) (s : CinderAPIStatus) :
    (cur.withStatus s).isDeleting = cur.isDeleting := rfl

/-! ## Collaborator contracts -/

/-- A versioned write (`Update`, `Status().Update`) of `req`, storing `write cur` over the stored
`cur`: it takes effect only when `req` carries the stored resourceVersion, and then the client
gets the stored object back; it may also fail, having taken effect or not. -/
def WriteStep (c : Cluster) (req : CinderAPI) (write : CinderAPI → CinderAPI)
    (r : Except Error CinderAPI) (c' : Cluster) : Prop :=
  (c' = c ∧ ∃ e, r = .error e) ∨
    ∃ cur, c.cinderAPI = some cur ∧ cur.resourceVersion = req.resourceVersion ∧
      c' = c.commit (write cur) ∧ (r = .ok (c.stamp (write cur)) ∨ ∃ e, r = .error e)

/-- The contract of each collaborator call: from `c`, `op` may reply `r` and leave `c'`. -/
def Call.Step : (op : Call) → Cluster → op.Reply → Cluster → Prop
  | .get _, c, r, c' =>
      c' = c ∧ ((∃ s ∈ c.cinderAPI :: c.history, r = Cluster.read s) ∨ ∃ t, r = .error (.other t))
  | .update req, c, r, c' => WriteStep c req (·.updatedBy req) r c'
  | .statusUpdate req, c, r, c' => WriteStep c req (·.withStatus req.status) r c'
  | .statusPatch _ _, c, _, c' =>
      c' = c ∨ ∃ cur s, c.cinderAPI = some cur ∧ c' = c.commit (cur.withStatus s)
  | .rangeOrder m, c, r, c' => c' = c ∧ IsRangeOrder m r
  | .keystoneServiceCreateOrPatch spec _ _ _, c, r, c' =>
      (c' = c ∨ c' = c.register spec.serviceName) ∧
        (r.2.1 = none → c' = c.register spec.serviceName)
  | .keystoneServiceDelete spec _ _ _, c, r, c' =>
      (c' = c ∨ c' = c.deregister spec.serviceName) ∧
        (r = none → c' = c.deregister spec.serviceName)
  | .newHelper _, c, _, c' => c' = c
  | .setAfter before inst, c, r, c' =>
      c' = c ∧ (r.1 = none → r.2 = decide (inst.status ≠ before.status))
  | .getSecret _ _, c, _, c' => c' = c
  | .ensureConfigMaps _ _, c, _, c' => c' = c
  | .getConfigMaps _ _ _, c, _, c' => c' = c
  | .exposeEndpoints _ _ _, c, _, c' => c' = c
  | .deploymentCreateOrPatch _ _ _ _, c, _, c' => c' = c

/-! ## What others do meanwhile -/

/-- A step taken by someone other than the reconciler. -/
inductive UserStep : Cluster → Cluster → Prop
  /-- The object is created, not yet being deleted. -/
  | create {c : Cluster} (o : CinderAPI) :
      c.cinderAPI = none → o.deletionTimestamp = none → UserStep c (c.commit o)
  /-- Its spec is edited. -/
  | edit {c : Cluster} {o : CinderAPI} (s : CinderAPISpec) :
      c.cinderAPI = some o → UserStep c (c.commit { o with spec := s })
  /-- It is deleted: the server stamps the deletion time (keeping an earlier one) and removes
  the object at once if no finalizer holds it. -/
  | delete {c : Cluster} {o : CinderAPI} (t : Nat) :
      c.cinderAPI = some o →
        UserStep c (c.commit { o with deletionTimestamp := some (o.deletionTimestamp.getD t) })
  /-- A KeystoneService is removed by someone else (the garbage collector, an administrator). -/
  | unregister (c : Cluster) (n : String) : UserStep c (c.deregister n)

/-- The steps others may take between two calls of the reconciler. -/
abbrev Interference := Relation.ReflTransGen UserStep

/-! ## Resource versions

Every write the server accepts stamps the next resourceVersion (`Cluster.stamp`), so a
resourceVersion names one state of the object: `Versioned` says so of a cluster, and every step,
of the controller or of others, keeps it (`Versioned.commit`, `Versioned.user`).  This is what
makes a versioned write safe: a request that carries the stored resourceVersion was built from
the stored state. -/

namespace Cluster

/-- `o` is the stored object or one of its earlier states: what a `Get` may serve. -/
def Stored (c : Cluster) (o : CinderAPI) : Prop := some o ∈ c.cinderAPI :: c.history

/-- **Resource versions name states.**  Every stored state carries a resourceVersion the server
has handed out, and no two different states carry the same one. -/
structure Versioned (c : Cluster) : Prop where
  le_revision : ∀ o, c.Stored o → o.resourceVersion ≤ c.revision
  unique : ∀ o o', c.Stored o → c.Stored o' → o.resourceVersion = o'.resourceVersion → o = o'

@[simp] theorem stamp_resourceVersion (c : Cluster) (o : CinderAPI) :
    (c.stamp o).resourceVersion = c.revision + 1 := rfl

@[simp] theorem commit_revision (c : Cluster) (o : CinderAPI) :
    (c.commit o).revision = c.revision + 1 := rfl

theorem stored_of_cinderAPI {c : Cluster} {o : CinderAPI} (h : c.cinderAPI = some o) :
    c.Stored o := by
  simp [Stored, h]

/-- What a `Get` serves is stored. -/
theorem stored_of_read {c : Cluster} {s : Option CinderAPI} {o : CinderAPI}
    (hs : s ∈ c.cinderAPI :: c.history) (hr : Cluster.read s = .ok o) : c.Stored o := by
  cases s with
  | none => cases hr
  | some o' =>
    cases hr
    exact hs

/-- After a commit, a stored state is the one just written or was stored before. -/
theorem stored_commit {c : Cluster} {o o' : CinderAPI} (h : (c.commit o).Stored o') :
    o' = c.stamp o ∨ c.Stored o' := by
  rcases List.mem_cons.mp h with h | h
  · unfold commit at h
    split at h <;> cases h
    exact .inl rfl
  · exact .inr h

theorem Versioned.commit {c : Cluster} (h : c.Versioned) (o : CinderAPI) :
    (c.commit o).Versioned where
  le_revision o' ho' := by
    rcases stored_commit ho' with rfl | ho'
    · simp
    · exact (h.le_revision o' ho').trans (Nat.le_succ _)
  unique o₁ o₂ h₁ h₂ hrv := by
    have hnew : ∀ o', c.Stored o' → o'.resourceVersion ≠ (c.stamp o).resourceVersion :=
      fun o' ho' => by simpa using Nat.ne_of_lt (Nat.lt_succ_of_le (h.le_revision o' ho'))
    rcases stored_commit h₁ with rfl | h₁ <;> rcases stored_commit h₂ with rfl | h₂
    · rfl
    · exact absurd hrv.symm (hnew _ h₂)
    · exact absurd hrv (hnew _ h₁)
    · exact h.unique _ _ h₁ h₂ hrv

theorem Versioned.register {c : Cluster} (h : c.Versioned) (n : String) :
    (c.register n).Versioned :=
  ⟨h.1, h.2⟩

theorem Versioned.deregister {c : Cluster} (h : c.Versioned) (n : String) :
    (c.deregister n).Versioned :=
  ⟨h.1, h.2⟩

end Cluster

/-- A run of `p` from `c`, ending in `c'` with result `a`; others may act before every call. -/
inductive Runs {α : Type} : Cluster → Prog α → α → Cluster → Prop
  | pure (c : Cluster) (a : α) : Runs c (.pure a) a c
  | call {c c₁ c₂ c' : Cluster} {op : Call} {k : op.Reply → Prog α} {r : op.Reply} {a : α} :
      Interference c c₁ → op.Step c₁ r c₂ → Runs c₂ (k r) a c' → Runs c (.call op k) a c'

/-- A run of a sequence splits at the point where its first part ends. -/
theorem Runs.of_bind {α β : Type} {p : Prog α} {f : α → Prog β} {c c' : Cluster} {b : β}
    (h : Runs c (p.bind f) b c') : ∃ a c₁, Runs c p a c₁ ∧ Runs c₁ (f a) b c' := by
  induction p generalizing c with
  | pure a => exact ⟨a, c, .pure c a, h⟩
  | call op k ih =>
    cases h with
    | call hi hs hk =>
      obtain ⟨a, c₁, h₁, h₂⟩ := ih _ hk
      exact ⟨a, c₁, .call hi hs h₁, h₂⟩

/-- The steps of others keep resource versions naming states. -/
theorem Cluster.Versioned.user {c c' : Cluster} (hs : UserStep c c') (h : c.Versioned) :
    c'.Versioned := by
  cases hs with
  | create o => exact h.commit _
  | edit s => exact h.commit _
  | delete t => exact h.commit _
  | unregister n => exact h.deregister n

/-- Runs compose: a run of `p` followed by a run of `f` on its result is a run of the sequence. -/
theorem Runs.bind {α β : Type} {p : Prog α} {f : α → Prog β} {c c₁ c' : Cluster} {a : α} {b : β}
    (h₁ : Runs c p a c₁) (h₂ : Runs c₁ (f a) b c') : Runs c (p.bind f) b c' := by
  induction h₁ with
  | pure => exact h₂
  | call hi hs _ ih => exact .call hi hs (ih h₂)

/-- The replies the code takes for success: no error and no requeue; a `Get` that reads the
stored state as it is (a missing object included); and a status patch that finds the object
gone, which the deferred function of `Reconcile` lets pass. -/
def Call.Succeeds : (op : Call) → Cluster → op.Reply → Prop
  | .get _, c, r => r = Cluster.read c.cinderAPI
  | .newHelper _, _, r => r = none
  | .setAfter _ _, _, r => r.1 = none
  | .update _, _, r => ∃ o, r = .ok o
  | .statusUpdate _, _, r => ∃ o, r = .ok o
  | .statusPatch _ _, _, r => r = none ∨ r = some .notFound
  | .rangeOrder _, _, _ => True
  | .getSecret _ _, _, r => ∃ s, r = .ok s
  | .ensureConfigMaps _ _, _, r => ∃ hashes, r = .ok hashes
  | .getConfigMaps _ _ _, _, r => ∃ hashes, r = .ok hashes
  | .exposeEndpoints _ _ _, _, r => r.2 = ({}, none)
  | .keystoneServiceCreateOrPatch _ _ _ _, _, r => r.1 = {} ∧ r.2.1 = none
  | .keystoneServiceDelete _ _ _ _, _, r => r = none
  | .deploymentCreateOrPatch _ _ _ _, _, r => r.1 = {} ∧ r.2.1 = none

/-- A run of `p` in which nobody else acts and every call succeeds. -/
inductive SoloRuns {α : Type} : Cluster → Prog α → α → Cluster → Prop
  | pure (c : Cluster) (a : α) : SoloRuns c (.pure a) a c
  | call {c c₁ c' : Cluster} {op : Call} {k : op.Reply → Prog α} {r : op.Reply} {a : α} :
      op.Step c r c₁ → op.Succeeds c r → SoloRuns c₁ (k r) a c' → SoloRuns c (.call op k) a c'

namespace SoloRuns

variable {α β : Type} {c c₁ c' : Cluster} {p : Prog α} {a : α}

theorem runs (h : SoloRuns c p a c') : Runs c p a c' := by
  induction h with
  | pure => exact .pure _ _
  | call hs _ _ ih => exact .call .refl hs ih

theorem bind {f : α → Prog β} {b : β} (h₁ : SoloRuns c p a c₁) (h₂ : SoloRuns c₁ (f a) b c') :
    SoloRuns c (p.bind f) b c' := by
  induction h₁ with
  | pure => exact h₂
  | call hs hok _ ih => exact .call hs hok (ih h₂)

end SoloRuns

end CinderOperator
