import Mathlib.Algebra.BigOperators.Group.List.Basic
import Mathlib.Algebra.GroupWithZero.Nat
import Mathlib.Algebra.Order.Group.Nat
import Mathlib.Order.CompletePartialOrder
import Mathlib.Order.Interval.Set.Disjoint

/-! # Tilings

Pieces that are laid out one after the other, each with some room, and what lies in the rooms.

* **`Extent`** — a range of addresses.
* **`Tiles`** — extents that are disjoint and lie within bounds.
* **`layOut`** — the extents of pieces that are laid out from an address on.
* **`tiles_layOut_iff`** — these tile the rooms exactly when every piece fits its room. -/

namespace Foundations

/-- A range of addresses: from `offset` on, `size` many. -/
structure Extent where
  offset : Nat
  size : Nat
  deriving DecidableEq, Repr

/-- The addresses of an extent, as the set of numbers from its offset up to its end. -/
def Extent.points (extent : Extent) : Set Nat := Set.Ico extent.offset (extent.offset + extent.size)

/-- Extents with a first address are disjoint when one ends before the other starts. -/
theorem Extent.disjoint_iff {a b : Extent} (ha : 0 < a.size) (hb : 0 < b.size) :
    Disjoint a.points b.points ↔ a.offset + a.size ≤ b.offset ∨ b.offset + b.size ≤ a.offset := by
  rw [points, points, Set.Ico_disjoint_Ico]
  omega

/-- An extent with a first address lies within bounds when it starts and ends there. -/
theorem Extent.points_subset_iff {a : Extent} (ha : 0 < a.size) {lo hi : Nat} :
    a.points ⊆ Set.Ico lo hi ↔ lo ≤ a.offset ∧ a.offset + a.size ≤ hi :=
  Set.Ico_subset_Ico_iff (by omega)

/-- Extents that tile: no two have an address in common, and all lie within the bounds. -/
structure Tiles (lo hi : Nat) (extents : List Extent) : Prop where
  disjoint : extents.Pairwise fun a b => Disjoint a.points b.points
  within : ∀ extent ∈ extents, extent.points ⊆ Set.Ico lo hi

/-- A piece: the room it is given, and the size of what lies there. -/
structure Piece where
  room : Nat
  size : Nat
  deriving DecidableEq, Repr

/-- A piece that takes some room and is not empty, so that it can meet others. -/
structure Piece.Solid (piece : Piece) : Prop where
  room : 0 < piece.room
  size : 0 < piece.size

/-- The room that some pieces take one after another, in all. -/
def roomOf (pieces : List Piece) : Nat := (pieces.map Piece.room).sum

@[simp] theorem roomOf_nil : roomOf [] = 0 := rfl

@[simp] theorem roomOf_cons (piece : Piece) (pieces : List Piece) :
    roomOf (piece :: pieces) = piece.room + roomOf pieces := List.sum_cons

@[simp] theorem roomOf_append (pieces others : List Piece) :
    roomOf (pieces ++ others) = roomOf pieces + roomOf others := by
  simp [roomOf]

/-- The extents of pieces that are laid out from `start` on, each behind the room of the ones
before. -/
def layOut : Nat → List Piece → List Extent
  | _, [] => []
  | start, piece :: pieces => ⟨start, piece.size⟩ :: layOut (start + piece.room) pieces

variable {start : Nat} {pieces : List Piece}

/-- Each extent that is laid out is that of a piece; it starts at or behind the start, and its room
ends within the room of all pieces. -/
theorem exists_of_mem_layOut {extent : Extent} (h : extent ∈ layOut start pieces) :
    start ≤ extent.offset ∧ ∃ piece ∈ pieces, extent.size = piece.size ∧
      extent.offset + piece.room ≤ start + roomOf pieces := by
  induction pieces generalizing start with
  | nil => exact absurd h List.not_mem_nil
  | cons piece pieces ih =>
      rw [roomOf_cons]
      rcases List.mem_cons.mp h with rfl | h
      · exact ⟨Nat.le_refl start, piece, List.mem_cons_self, rfl, by dsimp only; omega⟩
      · obtain ⟨hle, other, hmem, hsize, hend⟩ := ih h
        exact ⟨by omega, other, List.mem_cons_of_mem _ hmem, hsize, by omega⟩

/-- **Pieces that fit** their room tile the room of all of them when they are laid out one after
another. -/
theorem tiles_layOut (hsolid : ∀ piece ∈ pieces, piece.Solid)
    (hfits : ∀ piece ∈ pieces, piece.size ≤ piece.room) :
    Tiles start (start + roomOf pieces) (layOut start pieces) := by
  constructor
  · induction pieces generalizing start with
    | nil => exact List.Pairwise.nil
    | cons piece pieces ih =>
        obtain ⟨hpiece, hsolid⟩ := List.forall_mem_cons.mp hsolid
        obtain ⟨hfit, hfits⟩ := List.forall_mem_cons.mp hfits
        refine List.Pairwise.cons (fun extent hmem => ?_) (ih hsolid hfits)
        obtain ⟨hle, other, hother, hsize, -⟩ := exists_of_mem_layOut hmem
        have hpos : 0 < extent.size := hsize ▸ (hsolid other hother).size
        exact (Extent.disjoint_iff hpiece.size hpos).mpr (Or.inl (by dsimp only; omega))
  · intro extent hmem
    obtain ⟨hle, piece, hpiece, hsize, hend⟩ := exists_of_mem_layOut hmem
    have hfit := hfits piece hpiece
    exact (Extent.points_subset_iff (hsize ▸ (hsolid piece hpiece).size)).mpr ⟨hle, by omega⟩

/-- **Only pieces that fit** their room do: one that is larger meets the next piece or passes the
end. -/
theorem fits_of_tiles (hsolid : ∀ piece ∈ pieces, piece.Solid)
    (h : Tiles start (start + roomOf pieces) (layOut start pieces)) :
    ∀ piece ∈ pieces, piece.size ≤ piece.room := by
  induction pieces generalizing start with
  | nil => exact fun piece hmem => absurd hmem List.not_mem_nil
  | cons piece pieces ih =>
      obtain ⟨hpiece, hsolid⟩ := List.forall_mem_cons.mp hsolid
      obtain ⟨hfirst, hrest⟩ := List.pairwise_cons.mp h.disjoint
      obtain ⟨hwithin, hwithins⟩ := List.forall_mem_cons.mp h.within
      rw [roomOf_cons, ← Nat.add_assoc] at hwithin hwithins
      refine List.forall_mem_cons.mpr ⟨?_, ih hsolid ⟨hrest, fun extent hmem => ?_⟩⟩
      · -- the next piece, or the end, is just behind the room
        cases pieces with
        | nil =>
            have hend := ((Extent.points_subset_iff hpiece.size).mp hwithin).2
            dsimp only [roomOf_nil] at hend
            omega
        | cons next pieces =>
            have hnext : 0 < next.size := (hsolid next List.mem_cons_self).size
            have hdisjoint := (Extent.disjoint_iff hpiece.size hnext).mp
              (hfirst ⟨start + piece.room, next.size⟩ List.mem_cons_self)
            dsimp only at hdisjoint
            omega
      · obtain ⟨hle, other, hother, hsize, -⟩ := exists_of_mem_layOut hmem
        have hpos : 0 < extent.size := hsize ▸ (hsolid other hother).size
        have hend := ((Extent.points_subset_iff hpos).mp (hwithins extent hmem)).2
        exact (Extent.points_subset_iff hpos).mpr ⟨hle, hend⟩

/-- **When pieces tile their rooms.** Pieces that are laid out one after the other do not overlap
and stay within their rooms exactly when each of them fits its own room. -/
theorem tiles_layOut_iff (hsolid : ∀ piece ∈ pieces, piece.Solid) :
    Tiles start (start + roomOf pieces) (layOut start pieces) ↔
      ∀ piece ∈ pieces, piece.size ≤ piece.room :=
  ⟨fits_of_tiles hsolid, tiles_layOut hsolid⟩

end Foundations
