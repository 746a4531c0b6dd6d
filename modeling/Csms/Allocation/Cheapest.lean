import Mathlib.Algebra.Order.BigOperators.Group.List
import Mathlib.Algebra.Order.Group.Unbundled.Basic

/-!
# Taking items until a target is met

Items are taken in order as long as what they amount to falls short of a target.  When the order
is that of their prices, and of items of one price none amounts to more than an earlier one,
nothing cheaper is left behind and not even the dearest item taken can be spared.
-/

namespace Csms.Allocation

universe u v w

section

variable {ι : Type u} {α : Type v} [AddCommGroup α] [LinearOrder α] (amount : ι → α)

/-- The items taken while something remains of the target, and what remains then. -/
def takeWhileShort : List ι → α → List ι × α
  | [], remaining => ([], remaining)
  | item :: items, remaining =>
    if remaining ≤ 0 then ([], remaining)
    else
      let (taken, left) := takeWhileShort items (remaining - amount item)
      (item :: taken, left)

theorem takeWhileShort_cons_of_pos {item : ι} {items : List ι} {remaining : α}
    (short : 0 < remaining) : takeWhileShort amount (item :: items) remaining =
      (item :: (takeWhileShort amount items (remaining - amount item)).1,
        (takeWhileShort amount items (remaining - amount item)).2) :=
  if_neg (not_le.mpr short)

theorem takeWhileShort_cons_of_nonpos {item : ι} {items : List ι} {remaining : α}
    (met : remaining ≤ 0) : takeWhileShort amount (item :: items) remaining = ([], remaining) :=
  if_pos met

theorem takeWhileShort_isFront (items : List ι) (remaining : α) :
    (takeWhileShort amount items remaining).1 <+: items := by
  induction items generalizing remaining with
  | nil => exact List.prefix_rfl
  | cons item items ih =>
    rcases le_or_gt remaining 0 with met | short
    · rw [takeWhileShort_cons_of_nonpos amount met]
      exact List.nil_prefix
    · rw [takeWhileShort_cons_of_pos amount short]
      exact List.cons_prefix_cons.mpr ⟨rfl, ih _⟩

theorem takeWhileShort_meets [IsOrderedAddMonoid α] (items : List ι) (remaining : α) :
    remaining ≤ ((takeWhileShort amount items remaining).1.map amount).sum ∨
      (takeWhileShort amount items remaining).1 = items := by
  induction items generalizing remaining with
  | nil => exact Or.inr rfl
  | cons item items ih =>
    rcases le_or_gt remaining 0 with met | short
    · rw [takeWhileShort_cons_of_nonpos amount met]
      exact Or.inl met
    · rw [takeWhileShort_cons_of_pos amount short, List.map_cons, List.sum_cons]
      rcases ih (remaining - amount item) with meets | all
      · exact Or.inl (sub_le_iff_le_add'.mp meets)
      · exact Or.inr (congrArg _ all)

theorem sum_lt_of_takeWhileShort_eq_concat [IsOrderedAddMonoid α] {items earlier : List ι}
    {last : ι} {remaining : α}
    (isTaken : (takeWhileShort amount items remaining).1 = earlier ++ [last]) :
    (earlier.map amount).sum < remaining := by
  induction items generalizing remaining earlier with
  | nil => simp [takeWhileShort] at isTaken
  | cons item items ih =>
    rcases le_or_gt remaining 0 with met | short
    · simp [takeWhileShort_cons_of_nonpos amount met] at isTaken
    · rw [takeWhileShort_cons_of_pos amount short] at isTaken
      cases earlier with
      | nil => exact short
      | cons first earlier =>
        rw [List.cons_append, List.cons.injEq] at isTaken
        rw [List.map_cons, List.sum_cons, ← isTaken.1]
        exact lt_sub_iff_add_lt'.mp (ih isTaken.2)

/-- Something was taken only if something was wanted. -/
theorem pos_of_mem_takeWhileShort {items : List ι} {remaining : α} {item : ι}
    (taken : item ∈ (takeWhileShort amount items remaining).1) : 0 < remaining := by
  cases items with
  | nil => exact absurd taken List.not_mem_nil
  | cons first items =>
    by_contra met
    rw [takeWhileShort_cons_of_nonpos amount (not_lt.mp met)] at taken
    exact absurd taken List.not_mem_nil

variable {π : Type w} [LinearOrder π] {price : ι → π} {items : List ι} {remaining : α}

/-- Nothing left behind is cheaper than anything taken. -/
theorem price_le_of_takeWhileShort
    (sorted : items.Pairwise fun earlier later => price earlier ≤ price later) {taken left : ι}
    (isTaken : taken ∈ (takeWhileShort amount items remaining).1) (isItem : left ∈ items)
    (isLeft : left ∉ (takeWhileShort amount items remaining).1) : price taken ≤ price left := by
  obtain ⟨rest, isSplit⟩ := takeWhileShort_isFront amount items remaining
  rw [← isSplit] at sorted isItem
  exact (List.pairwise_append.mp sorted).2.2 taken isTaken left
    ((List.mem_append.mp isItem).resolve_left isLeft)

variable [IsOrderedAddMonoid α]

/-- Without one of the dearest items taken the target would not be met: the last item taken is
as dear and amounts to no more. -/
theorem sum_sub_lt_of_takeWhileShort (sorted : items.Pairwise fun earlier later =>
      price earlier ≤ price later ∧ (price earlier = price later → amount later ≤ amount earlier))
    {dear : ι} (isTaken : dear ∈ (takeWhileShort amount items remaining).1)
    (dearest : ∀ other ∈ (takeWhileShort amount items remaining).1, price other ≤ price dear) :
    ((takeWhileShort amount items remaining).1.map amount).sum - amount dear < remaining := by
  have sortedTaken := sorted.sublist (takeWhileShort_isFront amount items remaining).sublist
  rcases List.eq_nil_or_concat' (takeWhileShort amount items remaining).1 with
    isEmpty | ⟨earlier, last, isConcat⟩
  · rw [isEmpty] at isTaken
    exact absurd isTaken List.not_mem_nil
  · have short := sum_lt_of_takeWhileShort_eq_concat amount isConcat
    rw [isConcat] at isTaken dearest sortedTaken ⊢
    rw [List.map_append, List.sum_append, List.map_singleton, List.sum_singleton]
    rcases List.mem_append.mp isTaken with isEarlier | isLast
    · obtain ⟨upTo, noMore⟩ := (List.pairwise_append.mp sortedTaken).2.2 dear isEarlier last
        (List.mem_singleton_self _)
      have asDear := le_antisymm upTo
        (dearest last (List.mem_append_right _ (List.mem_singleton_self _)))
      rw [add_sub_assoc]
      exact (add_le_of_nonpos_right (sub_nonpos.mpr (noMore asDear))).trans_lt short
    · rw [List.mem_singleton.mp isLast, add_sub_cancel_right]
      exact short

theorem sum_sub_lt_of_nonpos {dear : ι} (nonpos : ∀ item ∈ items, amount item ≤ 0)
    (isTaken : dear ∈ (takeWhileShort amount items remaining).1) :
    ((takeWhileShort amount items remaining).1.map amount).sum - amount dear < remaining := by
  refine lt_of_le_of_lt ?_ (pos_of_mem_takeWhileShort amount isTaken)
  obtain ⟨before, after, isSplit⟩ := List.append_of_mem isTaken
  have isNonpos (part : List ι) (within : ∀ item ∈ part, item ∈ before ++ dear :: after) :
      (part.map amount).sum ≤ 0 := by
    refine (List.sum_le_card_nsmul (part.map amount) 0 fun value member => ?_).trans_eq
      (nsmul_zero _)
    obtain ⟨item, isItem, rfl⟩ := List.mem_map.mp member
    exact nonpos item ((takeWhileShort_isFront amount items remaining).subset
      (isSplit ▸ within item isItem))
  have beforeNonpos := isNonpos before fun item isItem => List.mem_append_left _ isItem
  have afterNonpos := isNonpos after fun item isItem =>
    List.mem_append_right _ (List.mem_cons_of_mem _ isItem)
  rw [isSplit, List.map_append, List.map_cons, List.sum_append, List.sum_cons,
    add_left_comm, add_sub_cancel_left]
  exact add_nonpos beforeNonpos afterNonpos

end

end Csms.Allocation
