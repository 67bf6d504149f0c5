/-
# Taking styling out twice

`noPaint` takes inline tags out in one pass and known markup tags in another.  Neither pass goes back, so a
tag can be left in the result, and a second `noPaint` takes it out:

| text | left of it | left of that |
| --- | --- | --- |
| `$${}{bold}` | `${bold}` | |
| `$<b>{bold}`, with markup | `${bold}` | |
| `<<b>b>`, with markup | `<b>` | |
| `<${dim}b>`, with markup | | |

The second result is the first one exactly if no tag is left (`noPaint_eq_self_iff`), and no tag is left
exactly if none comes together (`hasTags_noPaint_iff`).  The last line has none: markup is looked for after
the inline tags are gone.  The inline tag is looked for before, so the second line has one.
-/

import TermStyle.Proofs.ColorTag.Torn
import TermStyle.Proofs.Engine.Stripping
import TermStyle.Proofs.Engine.Switching
import TermStyle.Proofs.Markup.Torn

namespace TermStyle

namespace Markup

/-- No name of a known tag has a dollar sign or a brace in it. -/
theorem tags_unmarked {e : Text × Text} (he : e ∈ tags) {c : Char} (hc : c ∈ e.1) :
    c ≠ '$' ∧ ColorTag.isInner c = true := by
  have hall : tags.all (fun e => e.1.all fun c => c != '$' && ColorTag.isInner c) = true := by decide
  have hchar := List.all_eq_true.1 (List.all_eq_true.1 hall e he) c hc
  obtain ⟨hdollar, hinner⟩ := Bool.and_eq_true_iff.1 hchar
  exact ⟨bne_iff_ne.1 hdollar, hinner⟩

/-- No known tag has a dollar sign or a brace in it. -/
theorem Known.unmarked {w : Text} {groups : List (Option Text)} (h : Known w groups) :
    ∀ c ∈ w, c ≠ '$' ∧ ColorTag.isInner c = true := by
  obtain ⟨name, sequence, rfl, -, hname⟩ := h
  intro c hc
  rcases List.mem_cons.1 hc with rfl | hc
  · decide
  · rcases List.mem_append.1 hc with hc | hc
    · exact tags_unmarked (OrderedMap.mem_of_get? hname) hc
    · exact List.mem_singleton.1 hc ▸ by decide

/-- A text can be bridged in parts where a character stands that no known tag has. -/
theorem bridge_append_cons (colorize : Bool) {c : Char} (hc : ∀ w groups, Known w groups → c ∉ w)
    (a b : Text) : bridge colorize (a ++ c :: b) = bridge colorize a ++ c :: bridge colorize b := by
  have hopen : c ≠ '<' := by
    rintro rfl
    obtain ⟨groups, hknown⟩ := known_brackets_iff.2 (show ['b'] ∈ tags.keys by decide)
    exact hc _ groups hknown (List.mem_cons_self ..)
  have htail : ∀ w groups, Known w groups → c ∉ w.tail := fun w groups hw hm =>
    hc w groups hw (List.mem_of_mem_tail hm)
  rw [bridge_eq, finds_knownScan.replace_append_cons _ htail, ← bridge_eq, ← bridge_eq,
    bridge_cons colorize (not_begins hopen b)]

/-- What is an opening after known tags were taken out opens once. -/
theorem opensOnce_of_bridge {y : Text} (h : ColorTag.IsOpening (bridge false y)) : ColorTag.OpensOnce y := by
  obtain ⟨body, hy, hbody⟩ := h
  have hstrewn := finds_knownScan.strewn_strip y
  rw [← bridge_false_eq_strip, hy] at hstrewn
  obtain ⟨p, q, hpq, hp, hq⟩ := Text.Strewn.of_append_cons (a := []) hstrewn
  refine ⟨p, q, hpq, fun c hc => ?_, fun c hc => ?_⟩
  · rcases hp.mem_of_mem hc with hc | ⟨w, ⟨groups, hw⟩, hc⟩
    · exact absurd hc List.not_mem_nil
    · exact (hw.unmarked c hc).symm
  · rcases hq.mem_of_mem hc with hc | ⟨w, ⟨groups, hw⟩, hc⟩
    · exact hbody c hc
    · exact (hw.unmarked c hc).2

end Markup

namespace Engine

open ColorTag (IsOpening)

/-- Whether there is a tag in a text that the engine takes out: an inline tag or, where markup is bridged, a
known one. -/
def HasTags (e : Engine) (t : Text) : Prop :=
  Text.Holds ColorTag.Braced t ∨ e.config.htmlTags = true ∧ Text.Holds Markup.Known t

/-- Whether an inline tag comes together: between a dollar sign and a closing brace stands no opening, but
what is left of it is one. -/
def JoinsTag (e : Engine) (t : Text) : Prop :=
  ∃ v, '$' :: (v ++ ['\x7d']) <:+: t ∧ ¬ IsOpening v ∧ IsOpening (e.noPaint v)

/-- Whether a known tag comes together, once the inline tags are gone: between two brackets stands no name,
but what is left of it is one. -/
def JoinsMarkup (e : Engine) (t : Text) : Prop :=
  e.config.htmlTags = true ∧ ∃ v, '<' :: (v ++ ['>']) <:+: Text.strip e.config.colorTag.scan t ∧
    v ∉ Markup.tags.keys ∧ Markup.bridge false v ∈ Markup.tags.keys

theorem noPaint_of_escape_not_mem (e : Engine) {t : Text} (ht : Sgr.escape ∉ t) :
    e.noPaint t = e.bridge false (Text.strip e.config.colorTag.scan t) := by
  rw [noPaint, Sgr.strip_of_escape_not_mem fun h => ht (Text.mem_of_mem_strip h)]

/-- **An inline tag is left of markup** where an opening came together. -/
theorem holds_braced_bridge_iff (e : Engine) (u : Text) :
    Text.Holds ColorTag.Braced (e.bridge false u) ↔
      ∃ y, '$' :: (y ++ ['\x7d']) <:+: u ∧ IsOpening (e.bridge false y) := by
  rw [ColorTag.holds_iff]
  unfold bridge
  split
  · constructor
    · rintro ⟨x, hx, hin⟩
      rw [Markup.bridge_false_eq_strip] at hin
      obtain ⟨y, hin', hy, -, -⟩ := Markup.finds_knownScan.exists_of_infix_replace (fun _ _ => [])
        (fun _ _ _ => List.not_mem_nil) (fun _ _ _ => List.not_mem_nil) hin
      rw [← hy] at hx
      exact ⟨y, hin', Markup.bridge_false_eq_strip y ▸ hx⟩
    · rintro ⟨y, ⟨a, b, rfl⟩, hy⟩
      refine ⟨_, hy, Markup.bridge false a, Markup.bridge false b, ?_⟩
      have hdollar : ∀ w groups, Markup.Known w groups → '$' ∉ w := fun w groups hw hm =>
        (hw.unmarked _ hm).1 rfl
      have hclose : ∀ w groups, Markup.Known w groups → '\x7d' ∉ w := fun w groups hw hm =>
        absurd (hw.unmarked _ hm).2 (by decide)
      simp only [List.append_assoc, List.cons_append, List.nil_append,
        Markup.bridge_append_cons false hdollar, Markup.bridge_append_cons false hclose]
  · exact exists_congr fun y => and_comm

theorem bridge_sublist (e : Engine) (t : Text) : (e.bridge false t).Sublist t := by
  unfold bridge
  split
  · rw [Markup.bridge_false_eq_strip]
    exact Text.strip_sublist _ t
  · exact List.Sublist.refl t

/-- **Markup is left alone exactly if it has no known tag,** or if it is not bridged. -/
theorem bridge_eq_self_iff (e : Engine) (t : Text) :
    e.bridge false t = t ↔ ¬ (e.config.htmlTags = true ∧ Text.Holds Markup.Known t) := by
  unfold bridge
  split
  · rename_i hhtml
    have hsame := Markup.finds_knownScan.replace_eq_self_iff (fun _ _ => []) (t := t)
      (fun _ _ => Markup.open_mem) (fun _ _ _ => List.not_mem_nil)
    rw [Markup.bridge_false_eq_strip, Text.strip, hsame, not_and]
    exact ⟨fun h _ => h, fun h => h hhtml⟩
  · rename_i hhtml
    exact ⟨fun _ h => hhtml h.1, fun _ => rfl⟩

/-- What is an opening after markup was taken out opens once. -/
theorem opensOnce_of_bridge (e : Engine) {y : Text} (h : IsOpening (e.bridge false y)) :
    ColorTag.OpensOnce y := by
  unfold bridge at h
  split at h
  · exact Markup.opensOnce_of_bridge h
  · exact h.opensOnce

section Standard

variable {e : Engine} (htag : e.config.colorTag = ColorTag.standard) {t : Text} (ht : Sgr.escape ∉ t)
include htag ht

/-- **Nothing is taken out exactly if there is no tag.** -/
theorem noPaint_eq_self_iff : e.noPaint t = t ↔ ¬ e.HasTags t := by
  have hstrip : Text.strip ColorTag.standard.scan t = t ↔ ¬ Text.Holds ColorTag.Braced t :=
    ColorTag.finds_standard.replace_eq_self_iff _ (fun _ _ => ColorTag.dollar_mem)
      (fun _ _ _ => List.not_mem_nil)
  rw [e.noPaint_of_escape_not_mem ht, htag, HasTags, not_or, ← hstrip, ← e.bridge_eq_self_iff t]
  constructor
  · intro hsame
    -- Neither pass puts back what the other one takes out.
    have hfewer := e.bridge_sublist (Text.strip ColorTag.standard.scan t)
    rw [hsame] at hfewer
    have hfirst := (Text.strip_sublist ColorTag.standard.scan t).antisymm hfewer
    rw [hfirst] at hsame
    exact ⟨hfirst, hsame⟩
  · rintro ⟨hfirst, hsecond⟩
    rw [hfirst, hsecond]

theorem holds_braced_noPaint_iff : Text.Holds ColorTag.Braced (e.noPaint t) ↔ e.JoinsTag t := by
  have hpart : ∀ {v}, '$' :: (v ++ ['\x7d']) <:+: t →
      e.noPaint v = e.bridge false (Text.strip ColorTag.standard.scan v) := by
    intro v hin
    have hv : Sgr.escape ∉ v := fun hm =>
      ht (hin.subset (List.mem_cons_of_mem _ (List.mem_append_left _ hm)))
    rw [e.noPaint_of_escape_not_mem hv, htag]
  rw [e.noPaint_of_escape_not_mem ht, htag, e.holds_braced_bridge_iff]
  constructor
  · rintro ⟨y, hin, hy⟩
    obtain ⟨v, hin', hv, -, hnot⟩ := ColorTag.finds_standard.exists_of_infix_replace (fun _ _ => [])
      (fun _ _ _ => List.not_mem_nil) (fun _ _ _ => List.not_mem_nil) hin
    refine ⟨v, hin', fun hopening => hnot _ (ColorTag.braced_iff.2 ⟨hopening, rfl⟩), ?_⟩
    rw [hpart hin', Text.strip, hv]
    exact hy
  · rintro ⟨v, hin, hnot, hv⟩
    rw [hpart hin] at hv
    obtain ⟨a, b, rfl⟩ := hin
    have htorn := ColorTag.replace_torn (e.opensOnce_of_bridge hv) b hnot a
    refine ⟨_, ⟨Text.strip ColorTag.standard.scan a, Text.strip ColorTag.standard.scan b, ?_⟩, hv⟩
    simp only [Text.strip, List.append_assoc, List.cons_append, List.nil_append, htorn]

/-- **A tag is left exactly if one comes together.** -/
theorem hasTags_noPaint_iff : e.HasTags (e.noPaint t) ↔ e.JoinsTag t ∨ e.JoinsMarkup t := by
  refine or_congr (holds_braced_noPaint_iff htag ht) (and_congr_right fun hhtml => ?_)
  rw [e.noPaint_of_escape_not_mem ht, bridge, if_pos hhtml]
  exact Markup.holds_bridge_iff _

end Standard

/-- **A second `noPaint` changes nothing exactly if no tag is left** by the first one, and that is, if no tag
comes together. -/
theorem noPaint_noPaint_iff {e : Engine} (htag : e.config.colorTag = ColorTag.standard) {t : Text}
    (ht : Sgr.escape ∉ t) :
    (e.noPaint (e.noPaint t) = e.noPaint t ↔ ¬ e.HasTags (e.noPaint t)) ∧
      (e.HasTags (e.noPaint t) ↔ e.JoinsTag t ∨ e.JoinsMarkup t) := by
  have hescape : Sgr.escape ∉ e.noPaint t := by
    rw [e.noPaint_of_escape_not_mem ht]
    exact fun hm => ht (Text.mem_of_mem_strip ((e.bridge_sublist _).subset hm))
  exact ⟨noPaint_eq_self_iff htag hescape, hasTags_noPaint_iff htag ht⟩

/-- The second and the last line of the table: with the markup between them gone, a dollar sign and what
stands in braces are a tag; an inline tag inside of a known one does no harm. -/
theorem hasTags_noPaint_marked :
    (bridging true).HasTags ((bridging true).noPaint "$<b>\x7bbold\x7d".toList) ∧
      ¬ (bridging true).HasTags ((bridging true).noPaint "<${dim}b>".toList) := by
  constructor
  · have hopening : IsOpening ((bridging true).noPaint "<b>\x7bbold".toList) :=
      ⟨"bold".toList, by decide, List.all_eq_true.1 (by decide)⟩
    have hnot : ¬ IsOpening "<b>\x7bbold".toList := by
      rintro ⟨body, hbody, -⟩
      exact absurd (List.cons.inj hbody).1 (by decide)
    exact (noPaint_noPaint_iff (e := bridging true) rfl (by decide)).2.2
      (.inl ⟨_, ⟨[], [], rfl⟩, hnot, hopening⟩)
  · exact (noPaint_noPaint_iff (e := bridging true) rfl (by decide)).1.1 (by decide)

/-- **To take styling out twice is not to take it out once:** what is left of `ColorTag.joined` is a tag, in
an engine that can be reached. -/
theorem noPaint_noPaint_joined : standard.Reachable ∧ standard.config.colorTag = ColorTag.standard ∧
    Sgr.escape ∉ ColorTag.joined ∧ standard.noPaint ColorTag.joined = ColorTag.braced "bold".toList ∧
    standard.noPaint (standard.noPaint ColorTag.joined) = [] := by
  have hfirst : standard.noPaint ColorTag.joined = ColorTag.braced "bold".toList := by decide
  have hsecond : standard.noPaint (ColorTag.braced "bold".toList) = [] := by decide
  exact ⟨.made {} rfl rfl, rfl, by decide, hfirst, hfirst.symm ▸ hsecond⟩

end Engine
end TermStyle
