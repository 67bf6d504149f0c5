/-
# What stays after styles are taken out

`noPaint` goes over a text once for every kind of style: inline tags, then sequences, then known
tags where markup is bridged.  What stands on both sides of a style that is taken out comes
together, and is not looked at again:

| text | what is taken out | what stays |
| --- | --- | --- |
| escape `[` escape `[1m` `m` | the sequence inside | escape `[m` |
| escape `[` `<b>` `1m` | the tag inside, where markup is bridged | escape `[1m` |

So a sequence can stay.  `occurs_noPaint_iff` says exactly when: the text has, after its inline tags
were taken out, a sequence that is interrupted by others or by known tags (`Interrupted`).
`occurs_noPaint_nested` is the first line of the table.
-/

import TermStyle.Engine.Paint
import TermStyle.Proofs.Markup.KnownTags
import TermStyle.Proofs.Session.Reachable
import TermStyle.Proofs.Text.Strewn

namespace TermStyle

namespace Sgr

/-- Whether a text opens a sequence and goes on with parameters, but does not close it. -/
def IsOpening (x : Text) : Prop := ∃ params, x = '[' :: params ∧ ∀ c ∈ params, isParameterChar c = true

theorem isSequence_iff {v : Text} : IsSequence (escape :: (v ++ ['m'])) ↔ IsOpening v := by
  constructor
  · rintro ⟨params, hv, hparams⟩
    exact ⟨params, List.append_cancel_right (List.cons.inj hv).2, hparams⟩
  · rintro ⟨params, rfl, hparams⟩
    exact ⟨params, rfl, hparams⟩

/-- An opening is free of characters that are neither parameters nor the bracket. -/
theorem IsOpening.not_mem {x : Text} (h : IsOpening x) {c : Char} (hc : isParameterChar c = false)
    (hbracket : c ≠ '[') : c ∉ x := by
  obtain ⟨params, rfl, hparams⟩ := h
  intro hm
  rcases List.mem_cons.1 hm with rfl | hm
  · exact hbracket rfl
  · exact Bool.false_ne_true (hc.symm.trans (hparams c hm))

/-- Where an opening is pulled apart, no sequence begins any more. -/
theorem not_begins_of_opening {x v : Text} (hx : IsOpening x)
    (hopening : ∀ q, escape ∉ q → '<' ∉ q → q <+: v → q <+: x) (hnot : ¬ IsOpening v) (rest : Text) :
    ¬ Text.Begins (fun w groups => IsSequence w ∧ groups = []) (escape :: (v ++ 'm' :: rest)) := by
  rintro ⟨w, groups, ⟨⟨params, rfl, hparams⟩, -⟩, hpre⟩
  have hq : IsOpening ('[' :: params) := ⟨params, rfl, hparams⟩
  obtain ⟨-, hpre⟩ := List.cons_prefix_cons.1 hpre
  rcases Text.prefix_cut (hq.not_mem (by decide) (by decide)) hpre with rfl | hshort
  · exact hnot hq
  · have hfree : ∀ c : Char, c ≠ 'm' → isParameterChar c = false → c ≠ '[' →
        c ∉ ('[' :: params) ++ ['m'] := by
      intro c hm hc hbracket hin
      rcases List.mem_append.1 hin with hin | hin
      · exact hq.not_mem hc hbracket hin
      · exact hm (List.mem_singleton.1 hin)
    have hpre' : ('[' :: params) ++ ['m'] <+: x :=
      hopening _ (hfree _ (by decide) (by decide) (by decide))
        (hfree _ (by decide) (by decide) (by decide)) hshort
    exact hx.not_mem (by decide) (by decide)
      (hpre'.subset (List.mem_append_right _ (List.mem_singleton_self _)))

end Sgr

namespace Engine

open Text (Strewn)

/-- Whether a known tag can be taken out. -/
def TakesOut (html : Bool) (w : Text) : Prop := html = true ∧ ∃ groups, Markup.Known w groups

/-- Whether a text has a sequence that is interrupted: between the escape character and the letter
`m` there is an opening with sequences strewn in and, before that, known tags where they are taken
out. -/
def Interrupted (html : Bool) (u : Text) : Prop :=
  ∃ x y v, Sgr.IsOpening x ∧ Strewn (TakesOut html) x y ∧ Strewn Sgr.IsSequence y v ∧
    ¬ Sgr.IsOpening v ∧ Sgr.escape :: (v ++ ['m']) <:+: u

/-- **What is a sequence after known tags were taken out** is one in which they were strewn. -/
theorem occurs_bridge_iff (e : Engine) (s : Text) :
    Sgr.Occurs (e.bridge false s) ↔
      ∃ x y, Sgr.IsOpening x ∧ Strewn (TakesOut e.config.htmlTags) x y ∧
        Sgr.escape :: (y ++ ['m']) <:+: s := by
  have hopen : Sgr.Occurs (e.bridge false s) ↔
      ∃ x, Sgr.IsOpening x ∧ Sgr.escape :: (x ++ ['m']) <:+: e.bridge false s := by
    constructor
    · rintro ⟨w, ⟨params, rfl, hparams⟩, hin⟩
      exact ⟨'[' :: params, ⟨params, rfl, hparams⟩, hin⟩
    · rintro ⟨x, hx, hin⟩
      exact ⟨_, Sgr.isSequence_iff.2 hx, hin⟩
  rw [hopen]
  unfold bridge
  split
  · rename_i hhtml
    rw [Markup.bridge_false_eq_strip]
    constructor
    · rintro ⟨x, hx, hin⟩
      obtain ⟨y, hy, -, hin'⟩ := Markup.finds_knownScan.exists_strewn_of_infix_strip hin
      exact ⟨x, y, hx, hy.imp fun j hj => ⟨hhtml, hj⟩, hin'⟩
    · rintro ⟨x, y, hx, hy, hin⟩
      have hcut : ∀ w groups, Markup.Known w groups → Sgr.escape ∉ w.tail :=
        fun w groups hw hm => hw.escape_not_mem (List.mem_of_mem_tail hm)
      have hstay : ∀ c ∈ x ++ ['m'], ∀ rest, ¬ Text.Begins Markup.Known (c :: rest) := by
        refine fun c hc => Markup.not_begins ?_
        rintro rfl
        rcases List.mem_append.1 hc with hc | hc
        · exact hx.not_mem (by decide) (by decide) hc
        · exact absurd hc (by decide)
      exact ⟨x, hx, Markup.finds_knownScan.infix_strip_of_strewn (hy.imp fun j hj => hj.2) hcut
        (fun rest => Markup.not_begins (by decide) _) hstay hin⟩
  · rename_i hhtml
    constructor
    · rintro ⟨x, hx, hin⟩
      exact ⟨x, x, hx, .refl x, hin⟩
    · rintro ⟨x, y, hx, hy, hin⟩
      rw [hy.eq_of_forall_not fun j hj => hhtml hj.1] at hin
      exact ⟨x, hx, hin⟩

/-- **A sequence stays exactly where one was interrupted,** by others or by known tags that are taken
out, once the inline tags are gone. -/
theorem occurs_noPaint_iff (e : Engine) (t : Text) :
    Sgr.Occurs (e.noPaint t) ↔
      Interrupted e.config.htmlTags (Text.strip e.config.colorTag.scan t) := by
  rw [noPaint, occurs_bridge_iff]
  generalize Text.strip e.config.colorTag.scan t = u
  constructor
  · rintro ⟨x, y, hx, hy, hin⟩
    obtain ⟨v, hv, hnot, hin'⟩ := Sgr.finds_scan.exists_strewn_of_infix_strip hin
    exact ⟨x, y, v, hx, hy, hv.imp fun j ⟨_, hj⟩ => hj.1,
      fun hopen => hnot [] ⟨Sgr.isSequence_iff.2 hopen, rfl⟩, hin'⟩
  · rintro ⟨x, y, v, hx, hy, hv, hnot, hin⟩
    have hopening : ∀ q, Sgr.escape ∉ q → '<' ∉ q → q <+: v → q <+: x := fun q hq hq' hpre =>
      hy.prefix_of_prefix (fun j hj => hj.2.elim fun _ hk => hk.head?) hq'
        (hv.prefix_of_prefix (fun j hj => hj.head?) hq hpre)
    have hescape : Sgr.escape ∉ y ++ ['m'] := by
      intro hm
      rcases List.mem_append.1 hm with hm | hm
      · rcases hy.mem_of_mem hm with hm | ⟨j, ⟨-, groups, hj⟩, hm⟩
        · exact hx.not_mem (by decide) (by decide) hm
        · exact hj.escape_not_mem hm
      · exact absurd hm (by decide)
    exact ⟨x, y, hx, hy, Sgr.finds_scan.infix_strip_of_strewn (hv.imp fun j hj => ⟨[], hj, rfl⟩)
      (fun _ _ => Sgr.escape_not_mem_tail) (Sgr.not_begins_of_opening hx hopening hnot)
      (fun c hc => Sgr.not_begins fun h => hescape (h ▸ hc)) hin⟩

/-- The engine that is made when no setting is given. -/
def standard : Engine := ⟨Config.standard, [], .new (some 1024)⟩

/-- A sequence inside of another one: what is left of the outer one is a sequence. -/
def nested : Text := Sgr.escape :: '[' :: Sgr.escape :: "[1mm".toList

/-- **What is left of `nested` is a sequence,** in an engine that can be reached: that no styling stays
is not true of every text. -/
theorem occurs_noPaint_nested :
    standard.Reachable ∧ standard.noPaint nested = Sgr.escape :: "[m".toList ∧
      Sgr.Occurs (standard.noPaint nested) := by
  have hstripped : standard.noPaint nested = Sgr.escape :: "[m".toList := by
    decide
  have hsequence : Sgr.IsSequence (Sgr.escape :: "[m".toList) := by decide
  exact ⟨.made {} rfl rfl, hstripped, _, hsequence, hstripped ▸ List.infix_rfl⟩

end Engine
end TermStyle
