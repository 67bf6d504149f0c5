/-
# What palettes hold

Whatever a palette is asked, its entries change by two things only: an entry with a checked name and
a checked value is written, or the entry of a name is taken out (`Edits`).  A new palette is made in
the same way from the one without entries (`edits_ofEntries`), and a request edits the palette that
it is put to (`edits_perform`).

So a palette always has one entry a name, its names are single words, and its values consist of
parameter characters (`Sound`): each edit keeps it so.
-/

import TermStyle.Proofs.Session.Reachable

namespace TermStyle

namespace Palette

/-- One palette comes from another by writing checked entries and taking entries out. -/
inductive Edits : Palette → Palette → Prop
  /-- It stays as it is. -/
  | none (p : Palette) : Edits p p
  /-- An entry is written, and other edits follow. -/
  | put {p q : Palette} {name value : Text} (hname : Text.words name = [name])
      (hvalue : ∀ c ∈ value, Sgr.isParameterChar c = true) (later : Edits (p.put name value) q) :
      Edits p q
  /-- An entry is taken out, and other edits follow. -/
  | erase {p q : Palette} (name : Text) (later : Edits (p.erase name) q) : Edits p q

theorem edits_put {p q : Palette} {name value : Datum} {n v : Text} (hname : checkName name = .ok n)
    (hvalue : checkValue name value = .ok v) (later : Edits (p.put n v) q) : Edits p q :=
  .put (checkName_eq_ok_iff.1 hname).2 (checkValue_eq_ok_iff.1 hvalue).2 later

theorem edits_addEntries {p q : Palette} {entries : List (Datum × Datum)}
    (h : addEntries p entries = .ok q) : Edits p q := by
  induction entries generalizing p with
  | nil =>
    cases h
    exact .none _
  | cons entry more ih =>
    obtain ⟨name, value⟩ := entry
    simp only [addEntries] at h
    split at h
    · cases h
    · rename_i hvalue
      split at h
      · cases h
      · rename_i hname
        exact edits_put hname hvalue (ih h)

/-- **A new palette is edited out of nothing.** -/
theorem edits_ofEntries {entries : List (Datum × Datum)} {p : Palette} (h : ofEntries entries = .ok p) :
    Edits [] p :=
  edits_addEntries h

theorem edits_update (p : Palette) (pairs : List (Datum × Datum)) : Edits p (p.update pairs).palette := by
  induction pairs generalizing p with
  | nil => exact .none p
  | cons pair more ih =>
    rcases p.update_cases pair.1 pair.2 more with ⟨r, hdoes⟩ | ⟨n, v, hname, hvalue, hdoes⟩
    · exact hdoes ▸ .none p
    · rw [hdoes]
      exact edits_put hname hvalue (ih (p.put n v))

/-- All entries can be taken out, one after another. -/
theorem edits_nil (p : Palette) : Edits p [] := by
  induction p with
  | nil => exact .none []
  | cons entry more ih =>
    obtain ⟨name, value⟩ := entry
    refine .erase name ?_
    simpa only [OrderedMap.erase, beq_self_eq_true, if_true] using ih

/-- **A request edits the palette,** or leaves it as it was. -/
theorem edits_perform (p : Palette) (request : Request) : Edits p (p.perform request).palette := by
  rcases p.perform_cases request with ⟨reply, hdoes⟩ | ⟨_, _, n, v, _, hname, hvalue, hdoes⟩ |
    ⟨n, _, reply, -, -, hdoes⟩ | rfl | ⟨pairs, rfl⟩
  · exact hdoes ▸ .none p
  · exact hdoes ▸ edits_put hname hvalue (.none _)
  · exact hdoes ▸ .erase n (.none _)
  · exact edits_nil p
  · exact edits_update p pairs

/-- Whether a palette has one entry a name, names that are single words, and values of parameter
characters. -/
structure Sound (p : Palette) : Prop where
  /-- No name has two entries. -/
  distinct : p.keys.Nodup
  /-- A name is its only word. -/
  names : ∀ e ∈ p, Text.words e.1 = [e.1]
  /-- A value consists of parameter characters. -/
  values : ∀ e ∈ p, ∀ c ∈ e.2, Sgr.isParameterChar c = true

theorem Sound.nil : Sound [] where
  distinct := List.nodup_nil
  names _ h := absurd h List.not_mem_nil
  values _ h := absurd h List.not_mem_nil

theorem Sound.put {p : Palette} (h : p.Sound) {name value : Text} (hname : Text.words name = [name])
    (hvalue : ∀ c ∈ value, Sgr.isParameterChar c = true) : Sound (p.put name value) where
  distinct := OrderedMap.nodup_keys_put h.distinct name value
  names e he := by
    rcases OrderedMap.mem_of_mem_put he with rfl | he
    · exact hname
    · exact h.names e he
  values e he := by
    rcases OrderedMap.mem_of_mem_put he with rfl | he
    · exact hvalue
    · exact h.values e he

theorem Sound.erase {p : Palette} (h : p.Sound) (name : Text) : Sound (p.erase name) where
  distinct := ((OrderedMap.erase_sublist p name).map Prod.fst).nodup h.distinct
  names e he := h.names e ((OrderedMap.erase_sublist p name).subset he)
  values e he := h.values e ((OrderedMap.erase_sublist p name).subset he)

/-- **Edits keep a palette sound.** -/
theorem Edits.sound {p q : Palette} (h : Edits p q) (hp : p.Sound) : q.Sound := by
  induction h with
  | none => exact hp
  | put hname hvalue _ ih => exact ih (hp.put hname hvalue)
  | erase name _ ih => exact ih (hp.erase name)

end Palette

/-- **The palette of every engine that can be reached is sound.** -/
theorem Engine.Reachable.sound {e : Engine} (h : e.Reachable) : e.palette.Sound := by
  refine h.induction (P := fun palette _ => palette.Sound) ?_ ?_
  · intro config e hnew
    exact (Palette.edits_ofEntries (Engine.new_cases hnew).2.1).sound .nil
  · intro e f hstep he
    rcases hstep.cases with hl | ⟨hpalette, -⟩ | ⟨hpalette | ⟨request, hpalette⟩, -⟩
    · rw [hl.sameButCache.2]
      exact he
    · rw [hpalette]
      exact he
    · rw [hpalette]
      exact he
    · rw [hpalette]
      exact (Palette.edits_perform e.palette request).sound he

end TermStyle
