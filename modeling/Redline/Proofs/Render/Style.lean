/-
  Styled text — what a style leaves of a text.

  A style adds escape sequences, in front of a text, behind it, and behind every reset inside of it.
  It takes nothing away: the text is still there, as a part of the styled one (`sublist_styled`), so
  whatever can be seen in plain text can be seen in colour.
-/
import Redline.Render.Painter

namespace Redline.Render

theorem sublist_reopen (opening cs : List Char) : cs.Sublist (reopen opening cs) := by
  fun_induction reopen opening cs with
  | case1 rest ih =>
    have hrest : rest.Sublist (opening ++ reopen opening rest) :=
      ih.trans (List.sublist_append_right opening _)
    rw [List.append_assoc]
    exact (List.Sublist.refl reset).append hrest
  | case2 c rest _ ih => exact ih.cons_cons c
  | case3 => exact List.Sublist.refl []

/-- **A style takes nothing away.** -/
theorem sublist_styled (style : Style) (cs : List Char) : cs.Sublist (styled style cs) := by
  have hbehind : cs.Sublist (reopen (escapeSequence style.code) cs ++ reset) :=
    (sublist_reopen _ cs).trans (List.sublist_append_left _ reset)
  show cs.Sublist (escapeSequence style.code ++ reopen (escapeSequence style.code) cs ++ reset)
  rw [List.append_assoc]
  exact hbehind.trans (List.sublist_append_right _ _)

theorem Painter.sublist_paint (p : Painter) (style : Style) (cs : List Char) :
    cs.Sublist (p.paint style cs) := by
  rw [paint]
  split
  · exact sublist_styled style cs
  · exact List.Sublist.refl cs

/-- The number of added lines stands behind a plus sign, in every colour. -/
theorem Painter.plus_mem_summary (p : Painter) (a : Diff.Alignment) :
    '+' ∈ (p.summary a).toList := by
  have hplus : '+' ∈ p.paint .green ('+' :: Text.decimal a.additions) :=
    (p.sublist_paint .green _).subset List.mem_cons_self
  rw [summary, String.toList_ofList]
  exact List.mem_append_left _ (List.mem_append_left _ hplus)

end Redline.Render
