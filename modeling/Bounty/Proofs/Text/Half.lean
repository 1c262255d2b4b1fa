import Bounty.Text.Half

/-! Halves of surrogate pairs are kept apart from the characters of a text. What a text keeps can be
put together again, and without the sign before them private characters are never taken for halves.
-/
namespace Bounty.Text

/-- The characters that keep halves are those above them. -/
theorem half?_eq_some_iff {c : Char} {code : Nat} :
    half? c = some code ↔ c.toNat = code + halfShift ∧ isHalf code = true := by
  rw [half?, Option.ite_none_right_eq_some, Bool.and_eq_true, decide_eq_true_eq, Option.some.injEq]
  constructor
  · rintro ⟨⟨hAbove, hHalf⟩, rfl⟩
    exact ⟨(Nat.sub_add_cancel hAbove).symm, hHalf⟩
  · rintro ⟨hCode, hHalf⟩
    rw [hCode, Nat.add_sub_cancel]
    exact ⟨⟨Nat.le_add_left _ _, hHalf⟩, rfl⟩

/-- A half is kept by one character only. -/
theorem char_eq_of_half? {c : Char} {code : Nat} (h : half? c = some code) :
    c = Char.ofNat (code + halfShift) := by
  rw [← (half?_eq_some_iff.mp h).1, Char.ofNat_toNat]

/-- Halves are kept far above ASCII. -/
theorem le_of_half? {c : Char} {code : Nat} (h : half? c = some code) : halfShift ≤ c.toNat := by
  rw [(half?_eq_some_iff.mp h).1]
  exact Nat.le_add_left _ _

/-- A text is what its points are kept by, one after the other. -/
theorem flatMap_chars_points (cs : List Char) : (points cs).flatMap Point.chars = cs := by
  induction cs using points.induct with
  | case1 => rfl
  | case2 c => rfl
  | case3 c kept rest code hHalf ih =>
      split at hHalf
      · next hSign =>
          rw [points, if_pos hSign, hHalf]
          simp only [List.flatMap_cons, ih, Point.chars, ← char_eq_of_half? hHalf,
            ← eq_of_beq hSign, List.cons_append, List.nil_append]
      · cases hHalf
  | case4 c kept rest hNone ih =>
      rw [points, hNone]
      simp only [List.flatMap_cons, ih, Point.chars, List.cons_append, List.nil_append]

/-- No character is lost when a text is told as points. -/
@[simp]
theorem points_eq_nil_iff {cs : List Char} : points cs = [] ↔ cs = [] := by
  refine ⟨fun h => ?_, fun h => h ▸ rfl⟩
  rw [← flatMap_chars_points cs, h, List.flatMap_nil]

/-- Without the sign every character stands for itself, the private ones included. -/
theorem points_of_notMem {cs : List Char} (h : halfSign ∉ cs) : points cs = cs.map .char := by
  induction cs using points.induct with
  | case1 => rfl
  | case2 c => rfl
  | case3 c kept rest code hHalf ih =>
      split at hHalf
      · next hSign => exact absurd (List.mem_cons.mpr (.inl (eq_of_beq hSign).symm)) h
      · cases hHalf
  | case4 c kept rest hNone ih =>
      rw [points, hNone, ih (fun hMem => h (List.mem_cons_of_mem c hMem))]
      rfl

/-- A text holds a half only behind the sign. -/
theorem holdsHalf_of_notMem {s : String} (h : halfSign ∉ s.toList) : holdsHalf s = false := by
  rw [holdsHalf, points_of_notMem h, List.any_map, List.any_eq_false]
  exact fun _ _ => Bool.false_ne_true

theorem toNat_ofNat {n : Nat} (h : n.isValidChar) : (Char.ofNat n).toNat = n := by
  rw [Char.ofNat, dif_pos h]
  rfl

/-- The character that keeps a half is no other one. -/
theorem ofNat_ne {c : Char} {n : Nat} (hZero : c.toNat ≠ 0) (h : c.toNat ≠ n) :
    Char.ofNat n ≠ c := by
  rintro rfl
  by_cases hValid : n.isValidChar
  · exact h (toNat_ofNat hValid)
  · exact hZero (by rw [Char.ofNat, dif_neg hValid]; rfl)

/-- A half that a text keeps is found again. -/
theorem points_half {code : Nat} (h : isHalf code = true) (rest : List Char) :
    points ((Point.half code).chars ++ rest) = .half code :: points rest := by
  have hRange : code < 0xE000 := by
    simp only [isHalf, isHighHalf, isLowHalf, Bool.or_eq_true, Bool.and_eq_true,
      decide_eq_true_eq] at h
    omega
  have hValid : (code + halfShift).isValidChar := .inr ⟨by simp only [halfShift]; omega, by
    simp only [halfShift]; omega⟩
  have hKept : half? (Char.ofNat (code + halfShift)) = some code :=
    half?_eq_some_iff.mpr ⟨toNat_ofNat hValid, h⟩
  have hSign : (halfSign == halfSign) = true := beq_self_eq_true _
  rw [Point.chars, List.cons_append, List.cons_append, List.nil_append, points, if_pos hSign, hKept]

end Bounty.Text
