import LootRules.Proofs.Editor.Commands
import LootRules.Proofs.Machine

/-!
# The visible rows

By themselves, commands leave the visible rows where they are. Only paging and reverting move them,
and never below the last row. After every command they are moved as little as is needed to show the
cursor, so the cursor is always in one of them.

A row that is a page further on can be far beyond the document. It is a word nevertheless as long as
the rows and one page are words together.
-/

namespace LootRules.Editor

/-- The cursor is in the visible part. -/
def Visible (e : Editor) : Prop := e.top ≤ e.row ∧ e.row < e.top + e.height

/-- Making the cursor visible does what it says. -/
theorem visible_shownTop (e : Editor) : Visible { e with top := e.shownTop } := by
  have height : 1 ≤ e.height := Nat.le_max_right _ _
  change e.shownTop ≤ e.row ∧ e.row < e.shownTop + e.height
  rw [shownTop]
  split
  · omega
  · split <;> omega

/-- After every command the cursor is visible. -/
theorem visible_apply (e : Editor) (command : Command) : (e.apply command).1.Visible := by
  rw [apply_eq]
  exact visible_shownTop ((e.prepare command).run command)

/-- While the cursor is visible, nothing has to be moved to show it. -/
theorem shownTop_eq {e : Editor} (h : e.Visible) : e.shownTop = e.top := by
  rw [shownTop, if_neg (Nat.not_lt.mpr h.1), if_neg (Nat.not_le.mpr h.2)]

/-- The row one page below any row of the document is a word. -/
def PageFits (e : Editor) : Prop := e.document.size + e.height ≤ Machine.wordSize

instance (e : Editor) : Decidable e.PageFits := inferInstanceAs (Decidable (_ ≤ _))

end LootRules.Editor
