import Bounty.Json.Reader
import Bounty.Proofs.Data.Depth
import Bounty.Proofs.Numeral

/-! What is known of data that has been read from JSON: it is no deeper than the reader puts up
with, and its integers have no more digits. -/
namespace Bounty.Json

/-- Data that a reader may answer inside of `outer` collections. -/
structure Held (limit outer : Nat) (d : Data) : Prop where
  depth_le : outer + d.depth ≤ limit
  isWritable : d.isWritable = true

variable {t : Tolerance} {limit : Nat}

theorem held_scalar {outer : Nat} (hOuter : outer ≤ limit) {s : Scalar}
    (h : s.isWritable = true) : Held limit outer (.scalar s) where
  depth_le := by simpa [Data.depth] using hOuter
  isWritable := by simpa [Data.isWritable] using h

/-- A list may be answered if its items may, each inside of one collection more. -/
theorem held_list {outer : Nat} (hOuter : outer ≤ limit) {items : List Data}
    (h : ∀ d ∈ items, Held limit (outer + 1) d) : Held limit outer (.list items) where
  depth_le := by
    have hDepth : (Data.list items).depth ≤ limit - outer :=
      Data.depth_list_le_iff.mpr fun d hd => by
        have hItem := (h d hd).depth_le
        omega
    omega
  isWritable := Data.isWritable_list_iff.mpr fun d hd => (h d hd).isWritable

/-- Whether a member may be in an object that a reader answers. -/
def MemberHeld (limit outer : Nat) (member : Scalar × Data) : Prop :=
  member.1.isWritable = true ∧ Held limit outer member.2

/-- A member that replaces one of its key, or is added, leaves the other members as they are. -/
theorem memberHeld_setKey {outer : Nat} {key : Scalar} {value : Data}
    {entries : List (Scalar × Data)} (hNew : MemberHeld limit outer (key, value))
    (h : ∀ entry ∈ entries, MemberHeld limit outer entry) :
    ∀ entry ∈ Data.setKey key value entries, MemberHeld limit outer entry := by
  induction entries with
  | nil => simpa [Data.setKey] using hNew
  | cons entry rest ih =>
      obtain ⟨k, v⟩ := entry
      rw [List.forall_mem_cons] at h
      rw [Data.setKey]
      split
      · exact List.forall_mem_cons.mpr ⟨⟨h.1.1, hNew.2⟩, h.2⟩
      · exact List.forall_mem_cons.mpr ⟨h.1, ih h.2⟩

/-- A key that is repeated takes the place of one key and the value of another. -/
theorem held_ofPairs {outer : Nat} (hOuter : outer ≤ limit) {pairs : List (Scalar × Data)}
    (h : ∀ pair ∈ pairs, MemberHeld limit (outer + 1) pair) :
    Held limit outer (.ofPairs pairs) := by
  have hFold (done : List (Scalar × Data))
      (hDone : ∀ entry ∈ done, MemberHeld limit (outer + 1) entry) :
      ∀ entry ∈ pairs.foldl (fun entries pair => Data.setKey pair.1 pair.2 entries) done,
        MemberHeld limit (outer + 1) entry := by
    induction pairs generalizing done with
    | nil => exact hDone
    | cons pair rest ih =>
        rw [List.forall_mem_cons] at h
        exact ih h.2 _ (memberHeld_setKey h.1 hDone)
  have hAll := hFold [] (by simp)
  refine ⟨?_, Data.isWritable_mapping_iff.mpr fun entry hEntry =>
    ⟨(hAll entry hEntry).1, (hAll entry hEntry).2.isWritable⟩⟩
  have hDepth : (Data.ofPairs pairs).depth ≤ limit - outer :=
    Data.depth_mapping_le_iff.mpr fun entry hEntry => by
      have hValue := (hAll entry hEntry).2.depth_le
      omega
  omega

variable (hDigits : t.digits = some Numeral.digitLimit)

include hDigits

/-- A number that is read is a scalar with no more digits than are read at once. -/
theorem held_number? {outer : Nat} (hOuter : outer ≤ limit) {negative : Bool} {cs : List Char}
    {d : Data} {rest : List Char} (h : number? t negative cs = some (d, rest)) :
    Held limit outer d := by
  obtain ⟨⟨whole, after⟩, hWhole, h⟩ := Option.bind_eq_some_iff.mp h
  have hAll : whole.all Char.isDigit = true := by
    have hTake : whole = cs.takeWhile Char.isDigit := by
      unfold whole? digitsOf at hWhole
      split at hWhole <;> simp_all
    rw [hTake]
    exact List.all_takeWhile
  have hPart (fraction : List Char) (power : Int) (rest' : List Char) (isDecimal : Bool)
      (h : (if isDecimal then
          some (.scalar (.decimal (Binary64.ofDecimal negative
            (Nat.ofDigitChars 10 (whole ++ fraction) 0) (power - fraction.length))), rest')
        else if t.digits.any (whole.length > ·) then none
        else some (.integer (Numeral.signed negative (Nat.ofDigitChars 10 whole 0)), rest')) =
        some (d, rest)) : Held limit outer d := by
    split at h
    · cases h
      exact held_scalar hOuter rfl
    · split at h
      · cases h
      · next hLength =>
          cases h
          rw [hDigits] at hLength
          exact held_scalar hOuter
            (Numeral.isWritable_signed hAll (by simpa using hLength) negative)
  exact hPart _ _ _ _ h

theorem held_plain? {outer : Nat} (hOuter : outer ≤ limit) {cs : List Char} {d : Data}
    {rest : List Char} (h : plain? t cs = some (d, rest)) : Held limit outer d := by
  unfold plain? at h
  split at h
  all_goals first
    | exact held_number? hDigits hOuter h
    | (obtain ⟨r, -, hPair⟩ := Option.map_eq_some_iff.mp h
       cases hPair
       exact held_scalar hOuter rfl)

/-- What is read with some fuel. -/
structure FuelHeld (t : Tolerance) (limit fuel : Nat) : Prop where
  value {outer : Nat} {cs : List Char} {d : Data} {rest : List Char} (hOuter : outer ≤ limit)
    (h : value? t outer fuel cs = some (d, rest)) : Held limit outer d
  items {outer : Nat} {cs : List Char} {found : List Data} {rest : List Char}
    (hOuter : outer ≤ limit) (h : items? t outer fuel cs = some (found, rest)) :
    ∀ d ∈ found, Held limit outer d
  members {outer : Nat} {cs : List Char} {found : List (Scalar × Data)} {rest : List Char}
    (hOuter : outer ≤ limit) (h : members? t outer fuel cs = some (found, rest)) :
    ∀ member ∈ found, MemberHeld limit outer member

variable (hDepth : t.depth = some limit)

omit hDigits in
include hDepth in
/-- A collection is only entered where one more is put up with. -/
theorem lt_of_entered {outer : Nat} {α : Type} {found : Option α} {a : α}
    (h : (if t.depth.any (· ≤ outer) then none else found) = some a) :
    outer + 1 ≤ limit ∧ found = some a := by
  split at h
  · cases h
  · next hRoom => exact ⟨Nat.succ_le_of_lt (by simpa [hDepth] using hRoom), h⟩

include hDepth

/-- Whatever is read is held. By induction on the fuel, which goes down with each value, item and
member. -/
theorem fuelHeld (fuel : Nat) : FuelHeld t limit fuel := by
  induction fuel with
  | zero =>
      refine ⟨fun _ h => ?_, fun _ h => ?_, fun _ h => ?_⟩
      · simp [value?] at h
      · simp [items?] at h
      · simp [members?] at h
  | succ fuel ih =>
      refine ⟨fun hOuter h => ?_, fun hOuter h => ?_, fun hOuter h => ?_⟩
      · rw [value?] at h
        split at h
        · obtain ⟨found, -, h⟩ := Option.bind_eq_some_iff.mp h
          cases h
          exact held_scalar hOuter rfl
        · split at h
          · cases h
            exact held_list hOuter (by simp)
          · obtain ⟨hRoom, h⟩ := lt_of_entered hDepth h
            obtain ⟨found, hItems, h⟩ := Option.bind_eq_some_iff.mp h
            cases h
            exact held_list hOuter (ih.items hRoom hItems)
        · split at h
          · cases h
            exact ⟨hOuter, rfl⟩
          · obtain ⟨hRoom, h⟩ := lt_of_entered hDepth h
            obtain ⟨found, hMembers, h⟩ := Option.bind_eq_some_iff.mp h
            cases h
            exact held_ofPairs hOuter (ih.members hRoom hMembers)
        · exact held_plain? hDigits hOuter h
      · rw [items?] at h
        obtain ⟨⟨item, after⟩, hItem, h⟩ := Option.bind_eq_some_iff.mp h
        dsimp only at h
        have hHead := ih.value hOuter hItem
        split at h
        · cases h
          simpa using hHead
        · obtain ⟨others, hOthers, h⟩ := Option.bind_eq_some_iff.mp h
          cases h
          exact List.forall_mem_cons.mpr ⟨hHead, ih.items hOuter hOthers⟩
        · cases h
      · rw [members?] at h
        split at h
        · obtain ⟨⟨key, after⟩, -, h⟩ := Option.bind_eq_some_iff.mp h
          dsimp only at h
          split at h
          · obtain ⟨⟨value, after⟩, hValue, h⟩ := Option.bind_eq_some_iff.mp h
            dsimp only at h
            have hHead : MemberHeld limit _ (.text key, value) :=
              ⟨rfl, ih.value hOuter hValue⟩
            split at h
            · cases h
              simpa using hHead
            · obtain ⟨others, hOthers, h⟩ := Option.bind_eq_some_iff.mp h
              cases h
              exact List.forall_mem_cons.mpr ⟨hHead, ih.members hOuter hOthers⟩
            · cases h
          · cases h
        · cases h

/-- Whatever a text holds, what is read from it is within the limits of the reader. -/
theorem held_read? {s : String} {d : Data} (h : read? t s = some d) : Held limit 0 d := by
  obtain ⟨found, hValue, h⟩ := Option.bind_eq_some_iff.mp h
  dsimp only at h
  split at h
  · cases h
    exact (fuelHeld hDigits hDepth _).value (Nat.zero_le _) hValue
  · cases h

end Bounty.Json
