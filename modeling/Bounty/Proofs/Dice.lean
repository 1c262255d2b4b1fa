import Bounty.Dice.Twister
import Mathlib.Data.Fintype.BigOperators
import Mathlib.Data.Fintype.Pigeonhole
import Mathlib.Logic.Function.Iterate

/-! The dice that a player rolls are fair, and their drawing ends whenever it can. -/
namespace Bounty.Twister

/-- Whatever is drawn in the end is below the bound. By induction on the number of draws: a draw is
kept only if it is below. -/
theorem lt_of_firstBelow? {bound draws n : Nat} {t next : Twister}
    (h : firstBelow? bound draws t = some (n, next)) : n < bound := by
  induction draws generalizing t with
  | zero => cases h
  | succ draws ih =>
      rw [firstBelow?] at h
      dsimp only at h
      split at h
      · next hInside =>
          cases h
          exact hInside
      · exact ih h

/-- The state after a draw of so many bits. -/
def drawn (width : Nat) (t : Twister) : Twister := (t.bits width).2

/-- There is no first draw below a bound if and only if none of the draws is. -/
theorem firstBelow?_eq_none_iff {bound draws : Nat} {t : Twister} :
    firstBelow? bound draws t = none ↔
      ∀ k < draws, bound ≤ (((drawn (bound.log2 + 1))^[k] t).bits (bound.log2 + 1)).1 := by
  induction draws generalizing t with
  | zero => simp [firstBelow?]
  | succ draws ih =>
      rw [firstBelow?]
      dsimp only
      split
      · next hInside =>
          simp only [reduceCtorEq, false_iff, not_forall]
          exact ⟨0, Nat.succ_pos _, Nat.not_le.mpr hInside⟩
      · next hOutside =>
          rw [ih, Nat.forall_lt_succ_left]
          exact ⟨fun h => ⟨Nat.not_lt.mp hOutside, h⟩, And.right⟩

/-- What tells a state from all others, as one of as many things as there are states. -/
def code (t : Twister) : (Fin size → Fin UInt32.size) × Fin (size + 1) :=
  (fun i => ⟨t.words[i].toNat, t.words[i].toNat_lt⟩, t.next)

/-- States with the same words and the same place are the same. -/
theorem code_injective : Function.Injective code := by
  rintro ⟨words, next⟩ ⟨words', next'⟩ h
  obtain ⟨hWords, hNext⟩ := Prod.mk.inj h
  have hSame : words = words' := by
    ext i hi
    have hCode := congrFun hWords ⟨i, hi⟩
    exact congrArg Fin.val hCode
  rw [hSame, show next = next' from hNext]

/-- As many codes there are as states have been counted. -/
theorem card_code :
    Fintype.card ((Fin size → Fin UInt32.size) × Fin (size + 1)) = stateCount := by
  simp only [Fintype.card_prod, Fintype.card_fun, Fintype.card_fin, stateCount, Nat.pow_eq]

/-- Whoever moves on from a state comes back to one of the states before, within as many moves as
there are states. -/
theorem exists_iterate_eq (f : Twister → Twister) (t : Twister) :
    ∃ i j, i < j ∧ j ≤ stateCount ∧ f^[i] t = f^[j] t := by
  -- one more move is made than there are codes, so two of them end alike
  obtain ⟨i, j, hDistinct, hCode⟩ := Fintype.exists_ne_map_eq_of_card_lt
    (fun k : Fin (stateCount + 1) => code (f^[k.val] t))
    (by rw [card_code, Fintype.card_fin]; omega)
  have hSame := code_injective hCode
  have hFirst := i.isLt
  have hSecond := j.isLt
  rcases Nat.lt_or_gt_of_ne (Fin.val_ne_of_ne hDistinct) with h | h
  · exact ⟨i, j, h, by omega, hSame⟩
  · exact ⟨j, i, h, by omega, hSame.symm⟩

/-- What holds of as many states in a row as there are holds of all that follow. -/
theorem forall_iterate {P : Twister → Prop} {f : Twister → Twister} {t : Twister}
    (h : ∀ k < stateCount, P (f^[k] t)) (k : Nat) : P (f^[k] t) := by
  obtain ⟨i, j, hOrder, hCount, hSame⟩ := exists_iterate_eq f t
  induction k using Nat.strong_induction_on with
  | h k ih =>
      rcases Nat.lt_or_ge k j with hEarly | hLate
      · exact h k (hEarly.trans_le hCount)
      -- from the second of two equal states on, all goes as it went from the first on
      · have hBack : f^[k] t = f^[k - j + i] t := by
          obtain ⟨rest, rfl⟩ := Nat.exists_eq_add_of_le' hLate
          rw [Nat.add_sub_cancel, Function.iterate_add_apply, Function.iterate_add_apply, hSame]
        rw [hBack]
        exact ih _ (by omega)

/-- There is no number below a bound exactly where no draw ever is, however many are made. -/
theorem below?_eq_none_iff {bound : Nat} {t : Twister} :
    below? bound t = none ↔
      ∀ k, bound ≤ (((drawn (bound.log2 + 1))^[k] t).bits (bound.log2 + 1)).1 := by
  rw [below?, firstBelow?_eq_none_iff]
  exact ⟨fun h => forall_iterate (P := fun t => bound ≤ (t.bits (bound.log2 + 1)).1) h,
    fun h k _ => h k⟩

/-- The dice answer inside every range that has an integer. -/
theorem dice_isFair : dice.IsFair := by
  intro t min max hOrder
  have hRoll : dice.roll t min max =
      .ok (min + ((below? (max - min + 1).toNat t).getD (0, t)).1,
        ((below? (max - min + 1).toNat t).getD (0, t)).2) := by
    change roll t min max = _
    rw [roll, if_neg (Int.not_lt.mpr hOrder)]
  have hBelow : ((below? (max - min + 1).toNat t).getD (0, t)).1 < (max - min + 1).toNat := by
    cases hDrawn : below? (max - min + 1).toNat t with
    | none => simp only [Option.getD_none]; omega
    | some drawn => exact lt_of_firstBelow? hDrawn
  exact ⟨_, _, hRoll, by omega, by omega⟩

end Bounty.Twister
