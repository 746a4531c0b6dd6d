import Mathlib.Algebra.Order.BigOperators.Group.List
import Mathlib.Algebra.Order.Group.Defs
import Mathlib.Algebra.Order.Monoid.WithTop
import Mathlib.Tactic.Abel

/-!
# Dividing a capacity among capped claimants

An allocation gives each claimant a share of one capacity.  It is feasible when
every share is nonnegative and within its claimant's cap, if there is one, and
the shares together stay within the capacity.  Feasible allocations compose:
what one band of claimants leaves over can be divided among the next.
-/

namespace Csms.Allocation

universe u

variable {α : Type u} [AddCommGroup α] [LinearOrder α] [IsOrderedAddMonoid α]

/-- A share a claimant with this cap may be given. -/
def Admissible (cap : Option α) (share : α) : Prop :=
  0 ≤ share ∧ ∀ limit, cap = some limit → share ≤ limit

/-- Admissible shares, one for each claimant in order, within the capacity. -/
structure Feasible (caps : List (Option α)) (capacity : α) (shares : List α) : Prop where
  admissible : List.Forall₂ Admissible caps shares
  total : shares.sum ≤ capacity

variable {caps : List (Option α)} {capacity : α} {shares : List α}

omit [IsOrderedAddMonoid α] in
theorem Feasible.length_eq (feasible : Feasible caps capacity shares) :
    shares.length = caps.length :=
  feasible.admissible.length_eq.symm

omit [IsOrderedAddMonoid α] in
theorem admissible_zeros (nonneg : ∀ cap ∈ caps, ∀ limit, cap = some limit → 0 ≤ limit) :
    List.Forall₂ Admissible caps (caps.map fun _ => 0) := by
  induction caps with
  | nil => exact List.Forall₂.nil
  | cons cap caps ih =>
    refine List.Forall₂.cons ⟨le_rfl, nonneg cap List.mem_cons_self⟩ ?_
    exact ih fun other member => nonneg other (List.mem_cons_of_mem _ member)

omit [IsOrderedAddMonoid α] in
theorem feasible_zeros (capacityNonneg : 0 ≤ capacity)
    (nonneg : ∀ cap ∈ caps, ∀ limit, cap = some limit → 0 ≤ limit) :
    Feasible caps capacity (caps.map fun _ => 0) where
  admissible := admissible_zeros nonneg
  total := by
    have sumZero : (caps.map fun _ => (0 : α)).sum = 0 :=
      List.sum_eq_zero fun share member => by
        obtain ⟨_, _, equal⟩ := List.mem_map.mp member
        exact equal.symm
    rw [sumZero]
    exact capacityNonneg

/-- What a feasible allocation leaves over can be divided among further
claimants. -/
theorem Feasible.append {caps more : List (Option α)} {shares extra : List α}
    (first : Feasible caps capacity shares) (second : Feasible more (capacity - shares.sum) extra) :
    Feasible (caps ++ more) capacity (shares ++ extra) where
  admissible := List.rel_append first.admissible second.admissible
  total := by
    rw [List.sum_append]
    calc
      shares.sum + extra.sum ≤ shares.sum + (capacity - shares.sum) :=
        add_le_add_right second.total _
      _ = capacity := add_sub_cancel _ _

omit [IsOrderedAddMonoid α] in
theorem admissible_set (admissible : List.Forall₂ Admissible caps shares) {index : Nat} {share : α}
    (replaced : Admissible ((caps[index]?).getD none) share) :
    List.Forall₂ Admissible caps (shares.set index share) := by
  induction admissible generalizing index with
  | nil => exact List.Forall₂.nil
  | cons head tail ih =>
    cases index with
    | zero => exact List.Forall₂.cons (by simpa using replaced) tail
    | succ index => exact List.Forall₂.cons head (ih (by simpa using replaced))

omit [IsOrderedAddMonoid α] in
theorem admissible_getElem (admissible : List.Forall₂ Admissible caps shares) {index : Nat}
    (inRange : index < caps.length) : Admissible caps[index] ((shares[index]?).getD 0) := by
  induction admissible generalizing index with
  | nil => simp at inRange
  | cons head _ ih =>
    cases index with
    | zero => simpa using head
    | succ index => simpa using ih (by simpa using inRange)

/-- What the claimants can take together: without bound when one of them has no cap. -/
def capTotal (caps : List (Option α)) : WithTop α :=
  (caps.map fun cap => cap.elim ⊤ fun limit => (limit : WithTop α)).sum

omit [LinearOrder α] [IsOrderedAddMonoid α] in
theorem capTotal_append (caps more : List (Option α)) :
    capTotal (caps ++ more) = capTotal caps + capTotal more := by
  rw [capTotal, List.map_append, List.sum_append]
  rfl

/-- Nobody takes more than the cap. -/
theorem sum_le_capTotal (admissible : List.Forall₂ Admissible caps shares) :
    ((shares.sum : α) : WithTop α) ≤ capTotal caps := by
  induction admissible with
  | nil => exact le_rfl
  | @cons cap share _ _ head _ ih =>
    rw [List.sum_cons, WithTop.coe_add, capTotal, List.map_cons, List.sum_cons]
    refine add_le_add ?_ ih
    cases cap with
    | none => exact le_top
    | some limit => exact WithTop.coe_le_coe.mpr (head.2 limit rfl)

omit [LinearOrder α] [IsOrderedAddMonoid α] in
theorem capTotal_eq_of_full (full : List.Forall₂ (fun cap share => cap = some share) caps shares) :
    capTotal caps = ((shares.sum : α) : WithTop α) := by
  induction full with
  | nil => rfl
  | @cons cap share _ _ head _ ih =>
    subst head
    rw [List.sum_cons, WithTop.coe_add, ← ih]
    rfl

omit [IsOrderedAddMonoid α] in
theorem nonneg_of_admissible (admissible : List.Forall₂ Admissible caps shares) :
    ∀ share ∈ shares, 0 ≤ share := by
  induction admissible with
  | nil => simp
  | cons head _ ih => exact List.forall_mem_cons.mpr ⟨head.1, ih⟩

/-- Claimants can take something together if one of them can. -/
theorem capTotal_pos (nonneg : ∀ cap ∈ caps, ∀ limit, cap = some limit → 0 ≤ limit) {cap : Option α}
    (member : cap ∈ caps) (notZero : cap ≠ some 0) : 0 < capTotal caps := by
  have allNonneg : ∀ total ∈ caps.map fun cap => cap.elim ⊤ fun limit => (limit : WithTop α),
      0 ≤ total := by
    intro total isTotal
    obtain ⟨other, isOther, rfl⟩ := List.mem_map.mp isTotal
    cases other with
    | none => exact le_top
    | some limit => exact WithTop.coe_nonneg.mpr (nonneg _ isOther limit rfl)
  refine lt_of_lt_of_le ?_ (List.single_le_sum allNonneg _ (List.mem_map_of_mem member))
  cases cap with
  | none => exact WithTop.coe_lt_top 0
  | some limit =>
    have limitNonneg := nonneg _ member limit rfl
    exact WithTop.coe_pos.mpr (lt_of_le_of_ne limitNonneg fun zero => notZero (zero ▸ rfl))

/-- Nothing is left over while somebody could take more. -/
def Conserving (caps : List (Option α)) (capacity : α) (shares : List α) : Prop :=
  ((shares.sum : α) : WithTop α) = min (capacity : WithTop α) (capTotal caps)

theorem Feasible.conserving (feasible : Feasible caps capacity shares)
    (usedUp : shares.sum = capacity ∨ List.Forall₂ (fun cap share => cap = some share) caps shares) :
    Conserving caps capacity shares := by
  have withinCaps := sum_le_capTotal feasible.admissible
  rcases usedUp with wholly | full
  · rw [Conserving, ← wholly, min_eq_left withinCaps]
  · rw [Conserving, capTotal_eq_of_full full,
      min_eq_right (WithTop.coe_le_coe.mpr feasible.total)]

omit [LinearOrder α] [IsOrderedAddMonoid α] in
theorem sum_map_eq_filter_add {ι : Type*} (entries : List ι) (selected : ι → Bool) (f : ι → α) :
    (entries.map f).sum = ((entries.filter selected).map f).sum +
      ((entries.filter fun entry => !selected entry).map f).sum := by
  induction entries with
  | nil => simp
  | cons entry entries ih =>
    cases holds : selected entry
    · simp only [List.map_cons, List.sum_cons, ih, holds, Bool.false_eq_true, not_false_eq_true,
        List.filter_cons_of_neg, Bool.not_false, List.filter_cons_of_pos]
      abel
    · simp only [List.map_cons, List.sum_cons, ih, holds, List.filter_cons_of_pos,
        Bool.not_true, Bool.false_eq_true, not_false_eq_true, List.filter_cons_of_neg]
      abel

omit [LinearOrder α] [IsOrderedAddMonoid α] in
theorem sum_map_add_surcharge {ι : Type*} (entries : List ι) (selected : ι → Bool) (f : ι → α)
    (surcharge : α) :
    (entries.map fun entry => f entry + if selected entry then surcharge else 0).sum =
      (entries.map f).sum + (entries.filter selected).length • surcharge := by
  induction entries with
  | nil => simp
  | cons entry entries ih =>
    cases holds : selected entry
    · simp only [List.map_cons, List.sum_cons, ih, holds, Bool.false_eq_true, if_false,
        not_false_eq_true, List.filter_cons_of_neg]
      abel
    · simp only [List.map_cons, List.sum_cons, ih, holds, if_true, List.filter_cons_of_pos,
        List.length_cons, succ_nsmul]
      abel

end Csms.Allocation
