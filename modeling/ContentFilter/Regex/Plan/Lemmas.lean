import ContentFilter.Regex.Plan.Size

/-!
# Laws of plans and their sizes

A machine for two expressions in a row is no larger than machines for both, so the size of a pattern
is bounded by the sizes of its parts.
-/

namespace ContentFilter.Regex

@[simp] theorem plan_concat (a b : Regex) : (concat a b).plan = a.plan.append b.plan := rfl

@[simp] theorem plan_group (a : Regex) : (group false a).plan = a.plan := rfl

@[simp] theorem plan_capture (a : Regex) : (group true a).plan = .captured a.plan := rfl

@[simp] theorem plan_repeated (low : Nat) (spare : Option Nat) (a : Regex) :
    (repeated low spare a).plan = a.plan.copies low (spare.map (low + ·)) := rfl

namespace Plan

theorem bytes_append (a b : List Char) : bytes (a ++ b) = bytes a ++ bytes b :=
  List.flatMap_append

theorem sizes_append (direction : Direction) (as bs : List Plan) :
    sizes direction (as ++ bs) = sizes direction as + sizes direction bs := by
  induction as with
  | nil => simp [sizes]
  | cons a as ih => simp [sizes, ih, Nat.add_assoc]

theorem sizes_attach (direction : Direction) (a : Plan) (parts : List Plan) :
    sizes direction (attach a parts) = a.size direction + sizes direction parts := by
  unfold attach
  split
  · simp [sizes, size, bytes_append, Nat.mul_add, Nat.add_assoc]
  · rfl

theorem sizes_foldr_attach (direction : Direction) (as bs : List Plan) :
    sizes direction (as.foldr attach bs) = sizes direction as + sizes direction bs := by
  induction as with
  | nil => simp [sizes]
  | cons a as ih => rw [List.foldr_cons, sizes_attach, ih, sizes, Nat.add_assoc]

theorem sizes_parts_le (direction : Direction) (a : Plan) :
    sizes direction a.parts ≤ a.size direction := by
  cases a <;> simp [parts, sizes, size]

theorem size_ofParts_le (direction : Direction) (parts : List Plan) :
    (ofParts parts).size direction ≤ max stateSize (sizes direction parts) := by
  unfold ofParts
  split
  · exact Nat.le_max_left ..
  · simp only [sizes, Nat.add_zero]
    exact Nat.le_max_right ..
  · simp only [size]
    exact Nat.le_max_right ..

/-- Two plans in a row take no more room than both of them apart, or the state that does nothing. -/
theorem size_append_le (direction : Direction) (a b : Plan) :
    (a.append b).size direction ≤ max stateSize (a.size direction + b.size direction) := by
  refine Nat.le_trans (size_ofParts_le ..) ?_
  rw [sizes_foldr_attach]
  have := sizes_parts_le direction a
  have := sizes_parts_le direction b
  omega

/-- What a machine has around its plan: the loop in front, the capture of the match and the state that
accepts. -/
theorem machineSize_le (direction : Direction) (plan : Plan) :
    plan.machineSize direction ≤ plan.size direction + 208 := by
  have skip (anchored : Bool) :
      (if anchored then stateSize else forkSize + stateSize + branchingSize 1) ≤ 112 := by
    cases anchored <;> decide
  have capture : (captured plan).size direction ≤ plan.size direction + 64 := by
    cases direction <;> simp [size, stateSize]
  have accept : stateSize = 32 := rfl
  have := skip (plan.isAnchored direction)
  simp only [machineSize]
  omega

/-- A plan fits where its states and those around it do. -/
theorem fits_of_size_le {maxSize : Nat} {plan : Plan}
    (small : ∀ direction, plan.size direction + 208 ≤ maxSize) : plan.fits maxSize := by
  have forward := Nat.le_trans (machineSize_le .forward plan) (small .forward)
  have backward := Nat.le_trans (machineSize_le .backward plan) (small .backward)
  simp [fits, forward, backward]

/-- A plan that fits under a limit fits under every larger one. -/
theorem fits_mono {small large : Nat} (le : small ≤ large) {plan : Plan} (fits : plan.fits small) :
    plan.fits large := by
  simp only [Plan.fits, Bool.or_eq_true, Bool.and_eq_true, decide_eq_true_eq] at fits ⊢
  exact fits.imp_right fun ⟨forward, backward⟩ =>
    ⟨Nat.le_trans forward le, Nat.le_trans backward le⟩

end Plan

end ContentFilter.Regex
