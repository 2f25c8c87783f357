import CinderOperator.Api.Types

/-!
# Controller code as a program of collaborator calls

Everything the reconciler does to the world goes through a collaborator: the API server client,
lib-common's helpers for secrets, ConfigMaps, endpoints, KeystoneServices and Deployments.  The
model keeps the controller's own code and leaves those calls open: `Call` lists them, with the
arguments the code passes, and `Call.Reply` the type of what each hands back.  A `Prog` is the
controller's code as a tree of such calls, each continuation waiting on its reply.  Which replies
can come back, and what a call does to the cluster, is the business of `Cluster` (next module),
not of the program.

`Ctl` threads the reconciler's local `instance` (a pointer in the Go code; `inst` in argument
position here, `instance` being a Lean keyword) through a `Prog`.  The client wrappers `update`
and `statusUpdate` write the stored object back into it, as the controller-runtime client does.
-/

namespace CinderOperator

/-- The collaborator calls of the reconciler, with the arguments it passes. -/
inductive Call where
  /-- `r.Client.Get(ctx, key, instance)`. -/
  | get (key : NamespacedName)
  /-- `helper.NewHelper(instance, ...)`. -/
  | newHelper (inst : CinderAPI)
  /-- `helper.SetAfter(instance)` and `helper.GetChanges()["status"]`, in the deferred status
  patch; the helper holds the `before` object. -/
  | setAfter (before inst : CinderAPI)
  /-- `r.Update(ctx, instance)`. -/
  | update (inst : CinderAPI)
  /-- `r.Client.Status().Update(ctx, instance)`. -/
  | statusUpdate (inst : CinderAPI)
  /-- `r.Status().Patch(ctx, instance, client.MergeFrom(before))`. -/
  | statusPatch (before after : CinderAPI)
  /-- The order the Go runtime picks for `range m`. -/
  | rangeOrder (m : StrMap)
  /-- `secret.GetSecret(ctx, helper, name, namespace)`. -/
  | getSecret (name ns : String)
  /-- `configmap.EnsureConfigMaps(ctx, helper, instance, cms, &envVars)`. -/
  | ensureConfigMaps (inst : CinderAPI) (cms : List Template)
  /-- `configmap.GetConfigMaps(ctx, helper, instance, names, namespace, &envVars)`. -/
  | getConfigMaps (inst : CinderAPI) (names : List String) (ns : String)
  /-- `endpoint.ExposeEndpoints(ctx, helper, serviceName, labels, data)`. -/
  | exposeEndpoints (serviceName : String) (labels : StrMap) (data : GoMap Endpoint EndpointData)
  /-- `keystone.NewKeystoneService(spec, namespace, labels, timeout).CreateOrPatch(ctx, helper)`. -/
  | keystoneServiceCreateOrPatch (spec : KeystoneServiceSpec) (ns : String) (labels : StrMap)
      (timeout : Nat)
  /-- `keystone.NewKeystoneService(spec, namespace, labels, timeout).Delete(ctx, helper)`. -/
  | keystoneServiceDelete (spec : KeystoneServiceSpec) (ns : String) (labels : StrMap)
      (timeout : Nat)
  /-- `deployment.NewDeployment(cinderapi.Deployment(instance, inputHash, labels), timeout)
  .CreateOrPatch(ctx, helper)`; the Deployment builder is not part of `src/`, so the call carries
  its arguments. -/
  | deploymentCreateOrPatch (inst : CinderAPI) (inputHash : String) (labels : StrMap)
      (timeout : Nat)

/-- What each call hands back, in the shape of its Go results. -/
def Call.Reply : Call → Type
  | .get _ => Except Error CinderAPI
  | .newHelper _ => Option Error
  | .setAfter _ _ => Option Error × Bool
  | .update _ => Except Error CinderAPI
  | .statusUpdate _ => Except Error CinderAPI
  | .statusPatch _ _ => Option Error
  | .rangeOrder _ => List (Σ _ : String, String)
  | .getSecret _ _ => Except Error (String × String)
  | .ensureConfigMaps _ _ => Except Error (List String)
  | .getConfigMaps _ _ _ => Except Error (List String)
  | .exposeEndpoints _ _ _ => StrMap × Result × Option Error
  | .keystoneServiceCreateOrPatch _ _ _ _ => Result × Option Error × String
  | .keystoneServiceDelete _ _ _ _ => Option Error
  | .deploymentCreateOrPatch _ _ _ _ => Result × Option Error × Int

/-- The controller's code: a tree of collaborator calls, each continuation waiting on the
call's reply. -/
inductive Prog (α : Type) where
  | pure (a : α)
  | call (op : Call) (k : op.Reply → Prog α)

namespace Prog

/-- Sequencing: run `p`, then `f` on its result. -/
def bind {α β : Type} : Prog α → (α → Prog β) → Prog β
  | .pure a, f => f a
  | .call op k, f => .call op fun r => (k r).bind f

instance : Monad Prog where
  pure := .pure
  bind := Prog.bind

@[simp] theorem pure_bind' {α β : Type} (a : α) (f : α → Prog β) :
    (Prog.pure a).bind f = f a := rfl

@[simp] theorem call_bind {α β : Type} (op : Call) (k : op.Reply → Prog α) (f : α → Prog β) :
    (Prog.call op k).bind f = .call op fun r => (k r).bind f := rfl

theorem bind_pure {α : Type} (p : Prog α) : p.bind .pure = p := by
  induction p with
  | pure a => rfl
  | call op k ih => simp only [call_bind, ih]

theorem bind_assoc {α β γ : Type} (p : Prog α) (f : α → Prog β) (g : β → Prog γ) :
    (p.bind f).bind g = p.bind fun a => (f a).bind g := by
  induction p with
  | pure a => rfl
  | call op k ih => simp only [call_bind, ih]

/-- `Prog` is a lawful monad, so the library's lemmas on `do` blocks (and on `StateT` over it)
apply to the controller's code. -/
instance : LawfulMonad Prog :=
  LawfulMonad.mk' Prog bind_pure (fun _ _ => rfl) bind_assoc

end Prog

/-- Make one call and return its reply. -/
def send (op : Call) : Prog op.Reply := .call op .pure

/-- The reconciler's code with its local `instance`. -/
abbrev Ctl := StateT CinderAPI Prog

/-- `r.Update(ctx, instance)`: on success the client copies the stored object back into
`instance`. -/
def update : Ctl (Option Error) := do
  match ← send (.update (← get)) with
  | .ok stored => set stored; pure none
  | .error err => pure (some err)

/-- `r.Client.Status().Update(ctx, instance)`, which also copies the stored object back. -/
def statusUpdate : Ctl (Option Error) := do
  match ← send (.statusUpdate (← get)) with
  | .ok stored => set stored; pure none
  | .error err => pure (some err)

end CinderOperator
