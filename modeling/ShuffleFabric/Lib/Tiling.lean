import Mathlib.Data.List.Basic

/-!
# ShuffleFabric.Lib.Tiling

Consecutive spans of a list.

Spans that tile a list cut it into pieces: put together the pieces are the list, so two lists
with the same pieces are the same.

Nothing here mentions the repository.
-/

namespace Lib

/-- A part of a list: where it begins, and how long it is. -/
structure Span where
  offset : Nat
  length : Nat
  deriving DecidableEq, Repr

namespace Span

variable {α : Type}

/-- The part itself. -/
def piece (s : Span) (content : List α) : List α := (content.drop s.offset).take s.length

/-- The spans lie one behind the other, and fill what lies between two offsets. -/
def Tile : Nat → List Span → Nat → Prop
  | start, [], stop => start = stop
  | start, s :: spans, stop => s.offset = start ∧ Tile (start + s.length) spans stop

theorem Tile.le {start stop : Nat} {spans : List Span} (h : Tile start spans stop) :
    start ≤ stop := by
  induction spans generalizing start with
  | nil => exact Nat.le_of_eq h
  | cons s spans ih => exact Nat.le_trans (Nat.le_add_right _ _) (ih h.2)

/-- No span reaches outside. -/
theorem Tile.inside {start stop : Nat} {spans : List Span} (h : Tile start spans stop) :
    ∀ s ∈ spans, s.offset + s.length ≤ stop := by
  induction spans generalizing start with
  | nil => simp
  | cons s spans ih =>
      refine List.forall_mem_cons.mpr ⟨?_, ih h.2⟩
      rw [h.1]
      exact h.2.le

theorem length_piece {s : Span} {content : List α} (h : s.offset + s.length ≤ content.length) :
    (s.piece content).length = s.length := by
  rw [piece, List.length_take, List.length_drop]
  omega

/-- The pieces, put together, are what the spans fill. -/
theorem Tile.flatten {start stop : Nat} {spans : List Span} (h : Tile start spans stop)
    (content : List α) :
    (spans.map (·.piece content)).flatten = (content.drop start).take (stop - start) := by
  induction spans generalizing start with
  | nil =>
      obtain rfl : start = stop := h
      simp
  | cons s spans ih =>
      obtain ⟨rfl, hrest⟩ := h
      have hle := hrest.le
      rw [List.map_cons, List.flatten_cons, ih hrest, piece, ← List.drop_drop, ← List.take_add]
      congr 1
      omega

/-- Spans that tile the whole of a list cut it into pieces. -/
theorem Tile.flatten_eq {spans : List Span} {content : List α}
    (h : Tile 0 spans content.length) : (spans.map (·.piece content)).flatten = content := by
  rw [h.flatten, List.drop_zero, Nat.sub_zero, List.take_length]

/-- Lists with the same pieces are the same. -/
theorem Tile.ext {spans : List Span} {a b : List α} (ha : Tile 0 spans a.length)
    (hb : Tile 0 spans b.length) (h : ∀ s ∈ spans, s.piece a = s.piece b) : a = b := by
  rw [← ha.flatten_eq, ← hb.flatten_eq, List.map_congr_left h]

end Span

/-! ## Hashes -/

/-- Two different inputs with one hash. -/
def Collides {α β : Type} (hash : α → β) (a b : α) : Prop := a ≠ b ∧ hash a = hash b

/-- Inputs with one hash are the same, or collide. -/
theorem eq_or_collides {α β : Type} {hash : α → β} {a b : α} (h : hash a = hash b) :
    a = b ∨ Collides hash a b := by
  by_cases heq : a = b
  · exact .inl heq
  · exact .inr ⟨heq, h⟩

end Lib
