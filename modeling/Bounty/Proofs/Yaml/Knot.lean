import Mathlib.Data.Finset.Card
import Mathlib.Data.Finset.Union
import Bounty.Proofs.Data.View
import Bounty.Yaml.Network

/-! Values of YAML that contain themselves. Where there is room for all collections of a text inside
of each other, there is no room only for an element that is below itself. -/
namespace Bounty

namespace View

variable {V : Type} {view : View V}

/-- At a value or below it there is an element that is below itself. -/
def Knotted (view : View V) (v : V) : Prop :=
  ∃ w, Relation.ReflTransGen view.Child v w ∧ Relation.TransGen view.Child w w

/-- The values that hold others are among some. -/
def HeldBy (view : View V) (holders : Finset V) : Prop := ∀ v w, view.Inside v w → v ∈ holders

/-- A value with a child holds something, so it is among the holders. -/
theorem HeldBy.mem_of_child {holders : Finset V} (h : view.HeldBy holders) {v w : V}
    (hChild : view.Child v w) : v ∈ holders := by
  cases hChild with
  | listed hElement _ _ => exact h v _ (.entered hElement (List.mem_singleton_self _))
  | entered hElement _ _ _ _ => exact h v _ (.entered hElement (List.mem_singleton_self _))

variable [DecidableEq V] {holders : Finset V}

/-- What comes up inside of itself is not shown again, so a value does not nest deeper than there
are values that hold others. By induction on how deep it nests; `outer` has those that it is in. -/
theorem card_add_le_of_nests (hHolders : view.HeldBy holders) (hSame : ∀ v, view.same v v = true)
    {outer : List V} (hNodup : outer.Nodup) (hOuter : ∀ u ∈ outer, u ∈ holders) {count : Nat}
    {v : V} (h : view.Nests outer count v) : outer.length + count ≤ holders.card := by
  induction h with
  | here =>
      have hSubset : _ ⊆ holders := fun u hMem => hOuter u (List.mem_toFinset.mp hMem)
      have hCard := Finset.card_le_card hSubset
      rwa [List.toFinset_card_of_nodup hNodup] at hCard
  | @inside outer count v w hFresh hInside _ ih =>
      have hNew : v ∉ outer := by
        intro hMem
        rw [List.any_eq_false] at hFresh
        exact hFresh v hMem (hSame v)
      have hCount := ih (List.nodup_cons.mpr ⟨hNew, hNodup⟩)
        (List.forall_mem_cons.mpr ⟨hHolders v w hInside, hOuter⟩)
      rw [List.length_cons] at hCount
      omega

/-- Where nothing is below itself, one cannot go down to children more often than there are values
to go down from. By induction on the way down; `above` has those that were left before. -/
theorem card_add_le_of_exceeds (hHolders : view.HeldBy holders) {displayRoom : Nat → Nat}
    (hDisplay : ∀ left v, ¬ view.Nests [] (displayRoom left) v) {root : V}
    (hFree : ¬ view.Knotted root) {room : Nat} {v : V}
    (hReached : Relation.ReflTransGen view.Child root v) {above : Finset V}
    (hSubset : above ⊆ holders) (hAbove : ∀ u ∈ above, Relation.TransGen view.Child u v)
    (h : view.Exceeds displayRoom room v) : above.card + room ≤ holders.card := by
  induction h generalizing above with
  | elements => exact Finset.card_le_card hSubset
  | display hNests => exact absurd hNests (hDisplay _ _)
  | @child room v w hChild _ ih =>
      -- a value that has been left before would be below itself
      have hNew : v ∉ above := fun hMem => hFree ⟨v, hReached, hAbove v hMem⟩
      have hLeft : ∀ u ∈ insert v above, Relation.TransGen view.Child u w := by
        intro u hMem
        rcases Finset.mem_insert.mp hMem with rfl | hMem
        · exact .single hChild
        · exact (hAbove u hMem).tail hChild
      have hCount := ih (hReached.tail hChild)
        (Finset.insert_subset (hHolders.mem_of_child hChild) hSubset) hLeft
      rw [Finset.card_insert_of_notMem hNew] at hCount
      omega

/-- With room for all values that hold others, there is no room only where an element is below
itself. -/
theorem knotted_of_exceeds (hHolders : view.HeldBy holders) (hSame : ∀ v, view.same v v = true)
    {displayRoom : Nat → Nat} {room : Nat} {root : V} (hRoom : holders.card < room)
    (hDisplay : ∀ left, holders.card < displayRoom left)
    (h : view.Exceeds displayRoom room root) : view.Knotted root := by
  by_contra hFree
  have hShown (left : Nat) (v : V) : ¬ view.Nests [] (displayRoom left) v := by
    intro hNests
    have hCount := card_add_le_of_nests hHolders hSame List.nodup_nil
      (fun _ hMem => absurd hMem List.not_mem_nil) hNests
    have hMore := hDisplay left
    rw [List.length_nil] at hCount
    omega
  have hCount := card_add_le_of_exceeds hHolders hShown hFree .refl (Finset.empty_subset _)
    (fun _ hMem => absurd hMem (Finset.notMem_empty _)) h
  rw [Finset.card_empty] at hCount
  omega

end View

namespace Yaml.Network

variable (n : Network)

/-- The pairs of the collection at a place. -/
def pairsAt (place : Nat) : Finset Value :=
  match n.collections[place]? with
  | some (.pairs items) => (Finset.range items.length).image (.pair place)
  | _ => ∅

/-- All collections and pairs of a text. -/
def holders : Finset Value :=
  (Finset.range n.collections.size).biUnion fun place =>
    insert (.collection place) (n.pairsAt place)

variable {n}

theorem lt_size_of_collection {place : Nat} {c : Collection} (h : n.collections[place]? = some c) :
    place < n.collections.size := (Array.getElem?_eq_some_iff.mp h).1

/-- A collection of the node list is one of the values that may hold others. -/
theorem collection_mem_holders {place : Nat} {c : Collection} (h : n.collections[place]? = some c) :
    Value.collection place ∈ n.holders :=
  Finset.mem_biUnion.mpr
    ⟨place, Finset.mem_range.mpr (lt_size_of_collection h), Finset.mem_insert_self _ _⟩

/-- A pair of a collection of pairs may hold others, too. -/
theorem pair_mem_holders {place index : Nat} {p : Value × Value}
    (h : n.pairOf? place index = some p) : Value.pair place index ∈ n.holders := by
  unfold pairOf? at h
  split at h
  · next items hPairs =>
      have hIndex : index < items.length := (List.getElem?_eq_some_iff.mp h).1
      have hMem : Value.pair place index ∈ n.pairsAt place := by
        rw [pairsAt, hPairs]
        exact Finset.mem_image_of_mem _ (Finset.mem_range.mpr hIndex)
      exact Finset.mem_biUnion.mpr ⟨place, Finset.mem_range.mpr (lt_size_of_collection hPairs),
        Finset.mem_insert_of_mem hMem⟩
  · cases h

/-- Only collections and pairs have something inside. -/
theorem heldBy_holders : n.view.HeldBy n.holders := by
  intro v w h
  cases v with
  | scalar s =>
      have hLayer : n.view.layer (.scalar s) = .scalar s := rfl
      cases h <;> simp_all
  | collection place =>
      cases hPlace : n.collections[place]? with
      | some c => exact collection_mem_holders hPlace
      | none =>
          have hLayer : n.view.layer (.collection place) = .list [] := by
            simp [view, layer, hPlace]
          cases h <;> simp_all
  | pair place index =>
      cases hPair : n.pairOf? place index with
      | some p => exact pair_mem_holders hPair
      | none =>
          have hLayer : n.view.layer (.pair place index) = .list [] := by
            simp [view, layer, hPair]
          cases h <;> simp_all

/-- With room for all collections and pairs of a text, there is no room only where an element is
below itself. -/
theorem knotted_of_exceeds {displayRoom : Nat → Nat} {room : Nat} (hRoom : n.holders.card < room)
    (hDisplay : ∀ left, n.holders.card < displayRoom left)
    (h : n.view.Exceeds displayRoom room n.root) : n.view.Knotted n.root :=
  View.knotted_of_exceeds heldBy_holders (fun v => beq_self_eq_true v) hRoom hDisplay h

end Yaml.Network

end Bounty
