import ChatTune.Decimal.Shortest
import Mathlib.Algebra.Group.Nat.Defs

/-!
# Large numbers have a shortest decimal

The search for the shortest decimal walks through twenty-four grids.  A grid whose step is less
than half of the unit of the mantissa always has a point for a number, the one right above it
(`exists_pointOn`).  Where the grids lie above the decimal point, the last of them is that fine,
because a power of ten is at most a power of two with ten thirds of its exponent (`pow_ten_le`).
So a search that ends without a point ends behind the decimal point, and the zero that it gives
has no zeros behind it (`shortest_exponent_le_zero`).
-/

set_option autoImplicit false

namespace ChatTune.Decimal

/-- Three factors of ten are less than ten of two, and a single one less than four. -/
theorem pow_ten_le (power : Nat) : 10 ^ power ≤ 2 ^ (10 * (power / 3) + 4 * (power % 3)) :=
  calc 10 ^ power
      = (10 ^ 3) ^ (power / 3) * 10 ^ (power % 3) := by
        rw [← Nat.pow_mul, ← Nat.pow_add, Nat.div_add_mod]
    _ ≤ (2 ^ 10) ^ (power / 3) * (2 ^ 4) ^ (power % 3) :=
        Nat.mul_le_mul (Nat.pow_le_pow_left (by decide) _) (Nat.pow_le_pow_left (by decide) _)
    _ = 2 ^ (10 * (power / 3) + 4 * (power % 3)) := by
        rw [← Nat.pow_mul, ← Nat.pow_mul, Nat.pow_add]

namespace Magnitude

variable {magnitude : Magnitude} {tie : Tie} {grid : Int} {point : Nat}

/-! ## Points of a grid -/

/-- Where the interval that reads back as a number begins, in quarters of its unit. -/
def lowest (magnitude : Magnitude) : Nat :=
  4 * magnitude.mantissa - if magnitude.narrowBelow then 1 else 2

/-- Whether a point of a grid reads back as a number. -/
def readsBack (magnitude : Magnitude) (grid : Int) (point : Nat) : Bool :=
  if magnitude.mantissa % 2 == 0 then
    magnitude.lowest * (magnitude.scales grid).2 ≤ point * (magnitude.scales grid).1 &&
      point * (magnitude.scales grid).1 ≤ (4 * magnitude.mantissa + 2) * (magnitude.scales grid).2
  else
    magnitude.lowest * (magnitude.scales grid).2 < point * (magnitude.scales grid).1 &&
      point * (magnitude.scales grid).1 < (4 * magnitude.mantissa + 2) * (magnitude.scales grid).2

/-- The point of a grid at a number or right below it. -/
def pointBelow (magnitude : Magnitude) (grid : Int) : Nat :=
  4 * magnitude.mantissa * (magnitude.scales grid).2 / (magnitude.scales grid).1

/-- Of the two points next to a number one is taken that reads back, either one where both do. -/
theorem pointOn_eq (magnitude : Magnitude) (tie : Tie) (grid : Int) :
    let below := magnitude.pointBelow grid
    ∃ choice, (choice = below ∨ choice = below + 1) ∧
      magnitude.pointOn tie grid =
        match magnitude.readsBack grid below, magnitude.readsBack grid (below + 1) with
        | true, true => some choice
        | true, false => some below
        | false, true => some (below + 1)
        | false, false => none := by
  intro below
  refine ⟨_, ?_, rfl⟩
  split
  · exact .inl rfl
  · exact .inr rfl
  · cases tie with
    | up => exact .inr rfl
    | even =>
        dsimp only
        split
        · exact .inl rfl
        · exact .inr rfl

theorem scales_pos (magnitude : Magnitude) (grid : Int) :
    0 < (magnitude.scales grid).1 ∧ 0 < (magnitude.scales grid).2 := by
  simp only [scales, Nat.shiftLeft_eq]
  exact ⟨Nat.mul_pos (Nat.pow_pos (by decide)) (Nat.pow_pos (by decide)),
    Nat.mul_pos (Nat.pow_pos (by decide)) (Nat.pow_pos (by decide))⟩

theorem readsBack_of_between
    (above : 4 * magnitude.mantissa * (magnitude.scales grid).2 < point * (magnitude.scales grid).1)
    (below : point * (magnitude.scales grid).1 <
      (4 * magnitude.mantissa + 2) * (magnitude.scales grid).2) :
    magnitude.readsBack grid point = true := by
  have lowest : magnitude.lowest * (magnitude.scales grid).2 < point * (magnitude.scales grid).1 :=
    Nat.lt_of_le_of_lt (Nat.mul_le_mul_right _ (Nat.sub_le _ _)) above
  unfold readsBack
  split
  · exact Bool.and_eq_true_iff.mpr
      ⟨decide_eq_true (Nat.le_of_lt lowest), decide_eq_true (Nat.le_of_lt below)⟩
  · exact Bool.and_eq_true_iff.mpr ⟨decide_eq_true lowest, decide_eq_true below⟩

/-- Zero does not read back as a number that is not zero. -/
theorem readsBack_zero (positive : 0 < magnitude.mantissa) (grid : Int) :
    magnitude.readsBack grid 0 = false := by
  have above : 0 < magnitude.lowest * (magnitude.scales grid).2 := by
    refine Nat.mul_pos ?_ (magnitude.scales_pos grid).2
    unfold lowest
    split <;> omega
  unfold readsBack
  rw [Nat.zero_mul]
  split
  · rw [decide_eq_false (Nat.not_le_of_lt above), Bool.false_and]
  · rw [decide_eq_false (Nat.not_lt_zero _), Bool.false_and]

/-- A point that is found reads back. -/
theorem readsBack_of_pointOn (found : magnitude.pointOn tie grid = some point) :
    magnitude.readsBack grid point = true := by
  obtain ⟨choice, among, same⟩ := magnitude.pointOn_eq tie grid
  rw [same] at found
  split at found
  case h_1 below above =>
      cases found
      rcases among with rfl | rfl
      · exact below
      · exact above
  case h_2 below _ => exact Option.some.inj found ▸ below
  case h_3 _ above => exact Option.some.inj found ▸ above
  case h_4 => cases found

/-- **A fine grid has a point for every number.** -/
theorem exists_pointOn (fine : (magnitude.scales grid).1 < 2 * (magnitude.scales grid).2)
    (tie : Tie) : ∃ point, magnitude.pointOn tie grid = some point := by
  obtain ⟨choice, -, same⟩ := magnitude.pointOn_eq tie grid
  have step := (magnitude.scales_pos grid).1
  have next : magnitude.readsBack grid (magnitude.pointBelow grid + 1) = true := by
    have before := Nat.div_mul_le_self (4 * magnitude.mantissa * (magnitude.scales grid).2)
      (magnitude.scales grid).1
    refine readsBack_of_between (Nat.lt_mul_of_div_lt (Nat.lt_succ_self _) step) ?_
    rw [Nat.add_mul, Nat.add_mul, Nat.one_mul, pointBelow]
    omega
  rw [same, next]
  cases magnitude.readsBack grid (magnitude.pointBelow grid) with
  | true => exact ⟨_, rfl⟩
  | false => exact ⟨_, rfl⟩

/-! ## The search -/

/-- A search that gives zero has passed all of its grids. -/
theorem search_of_coefficient_eq_zero (positive : 0 < magnitude.mantissa) {grids : Nat}
    (zero : (magnitude.search tie grids grid).coefficient = 0) :
    (magnitude.search tie grids grid).exponent = grid - grids ∧
      ∀ passed < grids, magnitude.pointOn tie (grid - passed) = none := by
  induction grids generalizing grid with
  | zero => exact ⟨(Int.sub_zero grid).symm, fun passed inside => absurd inside (Nat.not_lt_zero _)⟩
  | succ grids ih =>
      rw [search] at zero ⊢
      cases found : magnitude.pointOn tie grid with
      | some point =>
          rw [found] at zero
          have nothing : point = 0 := zero
          cases (readsBack_zero positive grid).symm.trans (nothing ▸ readsBack_of_pointOn found)
      | none =>
          rw [found] at zero
          obtain ⟨exponent, others⟩ := ih zero
          refine ⟨exponent.trans (by omega), fun passed inside => ?_⟩
          cases passed with
          | zero => rwa [Int.natCast_zero, Int.sub_zero]
          | succ passed =>
              have later := others passed (Nat.lt_of_succ_lt_succ inside)
              rwa [Int.sub_sub, Int.add_comm 1] at later

/-- The magnitudes of the numbers of 64 bits. -/
structure InRange (magnitude : Magnitude) : Prop where
  mantissa : magnitude.mantissa < 2 ^ 53
  exponent : magnitude.exponent ≤ 971

/-- The last grid of a search is fine if it lies above the decimal point. -/
theorem InRange.fine (inRange : magnitude.InRange) (positive : 0 < magnitude.mantissa)
    (large : 0 < magnitude.coarseGrid - 23) :
    (magnitude.scales (magnitude.coarseGrid - 23)).1 <
      2 * (magnitude.scales (magnitude.coarseGrid - 23)).2 := by
  have bits : magnitude.mantissa.log2 < 53 :=
    (Nat.log2_lt (Nat.ne_of_gt positive)).mpr inRange.mantissa
  have exponent := inRange.exponent
  unfold coarseGrid at large ⊢
  obtain ⟨power, grid⟩ : ∃ power : Nat,
      (magnitude.mantissa.log2 + magnitude.exponent) * 1233 / 4096 + 2 - 23 = power :=
    ⟨_, (Int.toNat_of_nonneg (Int.le_of_lt large)).symm⟩
  obtain ⟨shift, quarter⟩ : ∃ shift : Nat, magnitude.exponent - 2 = shift :=
    ⟨(magnitude.exponent - 2).toNat, by omega⟩
  have scales : magnitude.scales power = (10 ^ power, 2 ^ shift) := by
    have one : Nat.pow 10 0 = 1 := rfl
    simp only [scales, quarter, Int.toNat_natCast, Int.toNat_neg_natCast, Nat.shiftLeft_eq, one,
      Nat.pow_zero, Nat.mul_one, Nat.one_mul]
    rfl
  rw [grid, scales]
  calc 10 ^ power
      ≤ 2 ^ (10 * (power / 3) + 4 * (power % 3)) := pow_ten_le power
    _ < 2 ^ (shift + 1) := Nat.pow_lt_pow_right (by decide) (by omega)
    _ = 2 * 2 ^ shift := by rw [Nat.pow_succ, Nat.mul_comm]

/-- **A shortest decimal that is zero has no zeros behind it.** -/
theorem InRange.shortest_exponent_le_zero (inRange : magnitude.InRange)
    (zero : (magnitude.shortest tie).coefficient = 0) : (magnitude.shortest tie).exponent ≤ 0 := by
  unfold shortest at zero ⊢
  split
  case isTrue => exact Int.le_refl 0
  case isFalse nonzero =>
      have positive : 0 < magnitude.mantissa := Nat.pos_of_ne_zero nonzero
      rw [if_neg nonzero] at zero
      obtain ⟨exponent, passed⟩ := search_of_coefficient_eq_zero positive zero
      rw [exponent]
      refine Int.not_lt.mp fun large => ?_
      obtain ⟨point, found⟩ := exists_pointOn (inRange.fine positive (by omega)) tie
      cases found.symm.trans (passed 23 (by decide))

end Magnitude

end ChatTune.Decimal
