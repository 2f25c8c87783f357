import Mathlib.Data.Finmap

/-!
# Go values the controller computes with

The controller of `src/` is Go code over the controller-runtime and lib-common libraries.  This
module fixes how the values it passes around are represented.

A Go `map` is a finite function: two maps with the same entries are the same map, whatever
order they were filled in, and that is what the controller's change detection compares.  It is
modelled by Mathlib's `Finmap`, whose equality is exactly that.  A `range` over a map visits the
entries in an order Go randomises on every loop; `IsRangeOrder m order` says that `order` is one
such order, and `lookup_foldl_insert` is what a loop that copies entries into another map
computes, for every such order.

`Result` is `ctrl.Result`, `Error` the errors as far as the controller tells them apart (by
`k8s_errors.IsNotFound`), and `NamespacedName` the key of a reconcile request.
-/

namespace CinderOperator

/-! ## Maps and their iteration order -/

/-- A Go `map[α]β`. -/
abbrev GoMap (α β : Type) [DecidableEq α] := Finmap fun _ : α => β

/-- A Go `map[string]string`. -/
abbrev StrMap := GoMap String String

section RangeOrder

variable {α β : Type} [DecidableEq α]

/-- `order` lists the entries of `m` in an order in which `for k, v := range m` may visit them:
each entry exactly once. -/
def IsRangeOrder (m : GoMap α β) (order : List (Σ _ : α, β)) : Prop :=
  (order : Multiset (Σ _ : α, β)) = m.entries

instance [DecidableEq β] (m : GoMap α β) (order : List (Σ _ : α, β)) :
    Decidable (IsRangeOrder m order) :=
  inferInstanceAs (Decidable (_ = _))

/-- A map's entries, in any range order, have distinct keys. -/
theorem IsRangeOrder.nodupKeys {m : GoMap α β} {order : List (Σ _ : α, β)}
    (h : IsRangeOrder m order) : order.NodupKeys :=
  Multiset.coe_nodupKeys.mp (h ▸ m.nodupKeys)

/-- Looking a key up in the map is looking it up along any range order. -/
theorem IsRangeOrder.lookup_eq {m : GoMap α β} {order : List (Σ _ : α, β)}
    (h : IsRangeOrder m order) (k : α) : m.lookup k = order.dlookup k := by
  have hm : m = AList.toFinmap ⟨order, h.nodupKeys⟩ := Finmap.ext h.symm
  rw [hm, Finmap.lookup_toFinmap]
  rfl

/-- **Copying a range into a map.**  `for k, v := range src { dst[k] = v }` leaves every key of the
range at its value there and every other key as it was, provided the keys of the range are
distinct (as those of a Go map are). -/
theorem lookup_foldl_insert (order : List (Σ _ : α, β)) (hnd : order.NodupKeys)
    (dst : GoMap α β) (k : α) :
    (order.foldl (fun acc e => acc.insert e.1 e.2) dst).lookup k =
      (order.dlookup k).or (dst.lookup k) := by
  induction order generalizing dst with
  | nil => rfl
  | cons e rest ih =>
    obtain ⟨he, hrest⟩ := List.nodupKeys_cons.mp hnd
    rw [List.foldl_cons, ih hrest]
    by_cases hk : k = e.1
    · subst hk
      rw [List.dlookup_eq_none.mpr he, List.dlookup_cons_eq, Finmap.lookup_insert]
      rfl
    · rw [List.dlookup_cons_ne _ _ hk, Finmap.lookup_insert_of_ne _ hk]

end RangeOrder

/-! ## Results and errors -/

/-- `time.Second`, in the nanoseconds of a `time.Duration`. -/
def second : Nat := 1000000000

/-- `ctrl.Result`: whether, and after how long, the framework runs the pass again.  `{}` (all
defaults) means neither. -/
structure Result where
  requeue : Bool := false
  requeueAfter : Nat := 0
deriving DecidableEq, Repr

/-- The errors the controller handles, told apart as `k8s_errors.IsNotFound` tells them apart:
`notFound` is the API server's NotFound status; every other error, the controller's own
`fmt.Errorf` values included, is `other` with its text. -/
inductive Error where
  | notFound
  | other (text : String)
deriving DecidableEq, Repr

/-- `k8s_errors.IsNotFound`. -/
def Error.isNotFound : Error → Bool
  | .notFound => true
  | .other _ => false

@[simp] theorem Error.isNotFound_notFound : Error.notFound.isNotFound = true := rfl

@[simp] theorem Error.isNotFound_other (t : String) : (Error.other t).isNotFound = false := rfl

/-- A Go function's `(value, err)` pair is an `Except Error`; building a value from a result that
may have failed fails exactly when the result did, with its error. -/
@[simp] theorem Except.map_eq_error {α β : Type} (f : α → β) (x : Except Error α) (e : Error) :
    Except.map f x = .error e ↔ x = .error e := by
  cases x <;> simp [Except.map]

/-- `types.NamespacedName`, the key a `reconcile.Request` carries. -/
structure NamespacedName where
  ns : String
  name : String
deriving DecidableEq, Repr

end CinderOperator
