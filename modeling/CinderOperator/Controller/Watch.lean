import CinderOperator.Api.Types

/-!
# The ConfigMap watch (`configMapFn`)

`SetupWithManager` registers a watch on ConfigMaps the controller does not own.  For each
ConfigMap event, `configMapFn` lists the CinderAPIs of the ConfigMap's namespace and enqueues a
reconcile request for every one whose owning Cinder (`GetOwningCinderName`) is the one the
ConfigMap's owner-name label names.  The listing is a collaborator call whose result the model
takes as an argument, `list`, from namespace to listing.

`configMapFn_eq` says what the loop computes, for every event object and every listing: `nil`
when the listing fails, when the label is missing or when no listed CinderAPI matches, and
otherwise exactly the matching CinderAPIs' requests, in listing order.
-/

namespace CinderOperator

variable (X : Externals)

/-- The part of a ConfigMap event object that `configMapFn` reads. -/
structure WatchedObject where
  ns : String
  name : String
  labels : StrMap

/-- The label key `configMapFn` looks for:
`labels.GetOwnerNameLabelSelector(labels.GetGroupLabel(cinder.ServiceName))`. -/
def ownerNameLabel : String := X.getOwnerNameLabelSelector (X.getGroupLabel X.serviceName)

/-- `configMapFn`, with `list ns` what `r.Client.List` returns for the CinderAPIs of namespace
`ns`.  A reconcile request carries only its `NamespacedName`; `none` is Go's `nil` slice. -/
def configMapFn (list : String → Except Error (List CinderAPI)) (o : WatchedObject) :
    Option (List NamespacedName) :=
  match list o.ns with
  | .error _ => none
  | .ok apis =>
    let label := o.labels
    let result : List NamespacedName :=
      match label.lookup (ownerNameLabel X) with
      | some l =>
        apis.foldl (fun result cr =>
          if l = X.getOwningCinderName cr then result ++ [⟨o.ns, cr.name⟩] else result) []
      | none => []
    if result.length > 0 then some result else none

variable {X}

/-- The loop over the listing appends, in order, the request of each CinderAPI owned by `l`. -/
theorem foldl_owned (ns l : String) (apis : List CinderAPI) (acc : List NamespacedName) :
    apis.foldl (fun result cr =>
        if l = X.getOwningCinderName cr then result ++ [⟨ns, cr.name⟩] else result) acc =
      acc ++ (apis.filter fun cr => X.getOwningCinderName cr = l).map fun cr => ⟨ns, cr.name⟩ := by
  induction apis generalizing acc with
  | nil => simp
  | cons cr apis ih =>
    rw [List.foldl_cons, ih]
    by_cases hl : l = X.getOwningCinderName cr
    · simp [hl]
    · simp [hl, Ne.symm hl]

/-- **The watch mapping.**  For every event object and every listing, `configMapFn` returns
`nil` when the listing fails, when the object has no owner-name label, or when no listed
CinderAPI is owned by the labelled Cinder; otherwise it returns one request per owned CinderAPI,
in listing order, with the object's namespace and the CinderAPI's name. -/
theorem configMapFn_eq (list : String → Except Error (List CinderAPI)) (o : WatchedObject) :
    configMapFn X list o =
      match list o.ns, o.labels.lookup (ownerNameLabel X) with
      | .ok apis, some l =>
        if ∀ cr ∈ apis, X.getOwningCinderName cr ≠ l then none
        else some ((apis.filter fun cr => X.getOwningCinderName cr = l).map
          fun cr => ⟨o.ns, cr.name⟩)
      | _, _ => none := by
  unfold configMapFn
  rcases list o.ns with e | apis
  · rfl
  · dsimp only
    rcases o.labels.lookup (ownerNameLabel X) with _ | l
    · rfl
    · simp only [foldl_owned, List.nil_append, List.length_map, gt_iff_lt,
        List.length_pos, ne_eq, List.filter_eq_nil_iff, decide_eq_true_eq, ite_not]

end CinderOperator
