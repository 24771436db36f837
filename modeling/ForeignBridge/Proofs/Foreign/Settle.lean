import ForeignBridge.Proofs.Foreign.Heap

/-! # What lasts

Whatever runs on a machine and whatever is freed in between, an object that the host refers to stays,
and the fixed objects are what they were at the start.
-/

namespace ForeignBridge.Foreign

theorem Run.grows {α : Type} (run : Run α) (machine : Machine) :
    machine.heap.Grows (run.on machine).2.heap := Course.grows run machine

namespace Heap

/-- The fixed objects stand where they stood at the start. -/
structure Sound (heap : Heap) : Prop where
  base : Fixed.cells.size ≤ heap.base
  size : heap.base ≤ heap.cells.size
  fixed : ∀ {handle cell}, Fixed.heap.get? handle = some cell → cell.isFixed = true →
    heap.get? handle = some cell

/-- How memory changes while the host refers to some objects: these stay, and what is fixed and there
for good stays as it is. -/
structure Spares (outside : List Handle) (before after : Heap) : Prop where
  base : after.base = before.base
  size : before.cells.size ≤ after.cells.size
  has : ∀ handle ∈ outside, before.has handle = true → after.has handle = true
  fixed : ∀ {handle cell}, before.get? handle = some cell → cell.isFixed = true →
    handle.address ≤ before.base → after.get? handle = some cell

namespace Spares

variable {outside : List Handle} {first second third : Heap}

theorem of_grows (grown : first.Grows second) : first.Spares outside second :=
  ⟨grown.base, grown.size, fun _ _ => grown.has, fun found isFixed _ => grown.fixed found isFixed⟩

theorem trans (early : first.Spares outside second) (late : second.Spares outside third) :
    first.Spares outside third where
  base := late.base.trans early.base
  size := early.size.trans late.size
  has handle member present := late.has handle member (early.has handle member present)
  fixed found isFixed low := late.fixed (early.fixed found isFixed low) isFixed (early.base ▸ low)

theorem mono {more : List Handle} (spared : first.Spares more second) (part : outside ⊆ more) :
    first.Spares outside second :=
  ⟨spared.base, spared.size, fun handle member => spared.has handle (part member), spared.fixed⟩

theorem reclaim (heap : Heap) (outside : List Handle) : heap.Spares outside (heap.reclaim outside) where
  base := rfl
  size := (heap.size_reclaim outside).ge
  has handle member present := by
    obtain same | ⟨_, _, absent⟩ := heap.get?_reclaim outside handle
    · rwa [Heap.has, same]
    · exact (absent member).elim
  fixed {handle _} found _ low := by
    obtain same | ⟨_, above, _⟩ := heap.get?_reclaim outside handle
    · rw [same, found]
    · omega

end Spares

namespace Sound

theorem spares {outside : List Handle} {before after : Heap} (sound : before.Sound)
    (spared : before.Spares outside after) : after.Sound where
  base := spared.base ▸ sound.base
  size := spared.base ▸ sound.size.trans spared.size
  fixed {handle cell} found isFixed := by
    have low : handle.address ≤ Fixed.cells.size := by
      have := (address_le_of_get? found).2
      rwa [Fixed.heap, Array.size_map] at this
    exact spared.fixed (sound.fixed found isFixed) isFixed (low.trans sound.base)

theorem grows {before after : Heap} (sound : before.Sound) (grown : before.Grows after) :
    after.Sound := sound.spares (Spares.of_grows grown : before.Spares [] after)

/-- That more objects are there for good changes nothing. -/
theorem raise {heap : Heap} (sound : heap.Sound) :
    Sound { heap with base := heap.cells.size } :=
  ⟨sound.base.trans sound.size, Nat.le_refl _, sound.fixed⟩

theorem start : Fixed.heap.Sound := ⟨Nat.le_refl _, by simp [Fixed.heap], fun found _ => found⟩

end Sound

end Heap

namespace Machine

theorem spares_reclaim (machine : Machine) (outside : List Handle) :
    machine.heap.Spares outside (machine.reclaim outside).heap := .reclaim machine.heap outside

theorem grows_finalize (machine : Machine) (handle : Handle) :
    machine.heap.Grows (machine.finalize handle).heap := by
  unfold finalize
  split
  · exact .refl _
  · exact Run.grows _ { machine with finalized := handle :: machine.finalized }

/-- Settling frees nothing that is referred to from outside, whatever the finalizers do. -/
theorem spares_settle (machine : Machine) (outside : List Handle) :
    machine.heap.Spares outside (machine.settle outside).heap := by
  have within (fuel : ℕ) (machine : Machine) :
      machine.heap.Spares outside (settleWithin outside fuel machine).heap := by
    induction fuel generalizing machine with
    | zero => exact spares_reclaim machine outside
    | succ fuel ih =>
      rw [settleWithin]
      split
      · rename_i handle _
        have kept := (spares_reclaim machine (outside ++ machine.unfinalized)).mono
          (List.subset_append_left outside _)
        exact (kept.trans (.of_grows (grows_finalize _ handle))).trans (ih _)
      · exact spares_reclaim machine outside
  unfold settle
  split
  · exact within _ machine
  · exact spares_reclaim machine outside

theorem sound_bare : bare.heap.Sound := .start

theorem sound_start : start.heap.Sound :=
  ((sound_bare.grows (Run.grows Run.start bare)).spares (spares_reclaim _ [])).raise

end Machine

end ForeignBridge.Foreign
