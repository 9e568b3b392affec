import ShadowLint.Proofs.Dump.Meaning
import ShadowLint.Proofs.Dump.Nesting

/-!
Loading a dump. A text loads if and only if it is a rendering of written trees that
denote trees and are not nested too deeply, and then it loads as these trees.
-/

namespace ShadowLint.Dump

theorem checkNesting_of_ok {text : List Char} {depth : Nat} (counted : nesting text = .ok depth) :
    checkNesting text = .ok depth := by
  rw [checkNesting, counted]

theorem treesOf_of_isForest {forest : List Written} {text : List Char} {trees : List Tree}
    (isForest : IsForest forest text) (denotes : Denotes forest trees) :
    treesOf text = .ok trees := by
  rw [treesOf, isForest_iff.mp isForest]
  dsimp only
  rw [meanings_of_denotes denotes]

theorem isForest_of_treesOf {text : List Char} {trees : List Tree}
    (loaded : treesOf text = .ok trees) :
    ∃ forest, IsForest forest text ∧ Denotes forest trees := by
  unfold treesOf at loaded
  split at loaded
  · rename_i forest read
    refine ⟨forest, isForest_iff.mpr read, meanings_eq_ok_iff.mp ?_⟩
    split at loaded
    · rename_i found meant
      cases loaded
      exact meant
    · cases loaded
    · cases loaded
  · cases loaded

end ShadowLint.Dump
