/-
# Made at once or written one by one

A palette can be made of its entries, or made without any and updated with them.  Both go through the entries
in order and let pass the same names and the same values, so they go on together and stop together, whatever
the palette held before (`compared_addEntries`).  Only the checks of an entry come in another order:

| name | value | made | updated |
| --- | --- | --- | --- |
| fits | fits | goes on | goes on |
| fits | wrong | the value is refused | the value is refused |
| wrong | fits | the name is refused | the name is refused |
| wrong | wrong | the value is refused | the name is refused |

An entry that is wrong twice is refused for one thing here and for another there, and the messages tell which
(`message_ne_of_checks`).  `WrongTwice` says of a list that the first of its entries that does not fit is such a
one; for all other lists the two ways cannot be told apart (`ofEntries_agrees_update`).
-/

import TermStyle.Proofs.Palette.Arrivals

namespace TermStyle
namespace Palette

/-- Whether a value may be a name: a text that is not empty and has no blank. -/
def IsName (name : Datum) : Prop :=
  ∃ t, name = .text t ∧ t ≠ [] ∧ ∀ c ∈ t, Text.isBlank c = false

/-- Whether a palette may hold a value: a text of digits, colons and semicolons. -/
def IsValue (value : Datum) : Prop :=
  ∃ t, value = .text t ∧ ∀ c ∈ t, c.isDigit ∨ c = ':' ∨ c = ';'

theorem exists_checkName_iff {name : Datum} : (∃ n, checkName name = .ok n) ↔ IsName name := by
  simp only [checkName_eq_ok_iff, words_eq_singleton_iff, IsName]

theorem exists_checkValue_iff {name value : Datum} :
    (∃ v, checkValue name value = .ok v) ↔ IsValue value := by
  simp only [checkValue_eq_ok_iff, isParameterChar_iff, IsValue]

theorem not_isName_of_error {name : Datum} {r : Refusal} (h : checkName name = .error r) : ¬ IsName name := by
  intro hname
  obtain ⟨n, hn⟩ := exists_checkName_iff.2 hname
  rw [h] at hn
  cases hn

theorem not_isValue_of_error {name value : Datum} {r : Refusal} (h : checkValue name value = .error r) :
    ¬ IsValue value := by
  intro hvalue
  obtain ⟨v, hv⟩ : ∃ v, checkValue name value = .ok v := exists_checkValue_iff.2 hvalue
  rw [h] at hv
  cases hv

/-- Whether the first of some entries that does not fit is wrong in its name and in its value. -/
inductive WrongTwice : List (Datum × Datum) → Prop
  /-- The first entry is wrong in both. -/
  | here {name value : Datum} {more : List (Datum × Datum)} (hname : ¬ IsName name)
      (hvalue : ¬ IsValue value) : WrongTwice ((name, value) :: more)
  /-- The first entry fits. -/
  | later {name value : Datum} {more : List (Datum × Datum)} (hname : IsName name)
      (hvalue : IsValue value) (hmore : WrongTwice more) : WrongTwice ((name, value) :: more)

/-- What is said of a name that is refused. -/
theorem isPrefix_of_checkName {name : Datum} {r : Refusal} (h : checkName name = .error r) :
    "palette name".toList <+: r.message := by
  unfold checkName at h
  split at h
  · split at h
    · cases h
    · cases h
      exact List.prefix_append_of_prefix (by decide)
  · cases h
    exact List.prefix_append_of_prefix (by decide)

/-- What is said of a value that is refused. -/
theorem isPrefix_of_checkValue {name value : Datum} {r : Refusal} (h : checkValue name value = .error r) :
    "palette value".toList <+: r.message := by
  have hfront : ∀ rest, "palette value".toList <+: "palette value for ".toList ++ rest :=
    fun _ => List.prefix_append_of_prefix (by decide)
  unfold checkValue at h
  split at h
  · split at h
    · cases h
    · cases h
      exact List.prefix_append_of_prefix (List.prefix_append_of_prefix (hfront _))
  · cases h
    exact List.prefix_append_of_prefix (List.prefix_append_of_prefix (hfront _))

/-- **Of a name and of a value different things are said.** -/
theorem message_ne_of_checks {name value : Datum} {r s : Refusal} (hvalue : checkValue name value = .error r)
    (hname : checkName name = .error s) : r.message ≠ s.message := by
  intro hsame
  have hfirst := isPrefix_of_checkName hname
  have hsecond := isPrefix_of_checkValue hvalue
  rw [hsame] at hsecond
  have hprefix : "palette name".toList <+: "palette value".toList :=
    List.prefix_of_prefix_length_le hfirst hsecond (by decide)
  exact absurd hprefix (by decide)

/-- An entry that fits is passed over. -/
theorem wrongTwice_cons_of_fits {name value : Datum} {more : List (Datum × Datum)} (hname : IsName name)
    (hvalue : IsValue value) : WrongTwice ((name, value) :: more) ↔ WrongTwice more := by
  constructor
  · intro h
    cases h with
    | here hwrong => exact absurd hname hwrong
    | later _ _ hmore => exact hmore
  · exact .later hname hvalue

/-- An entry of which one half fits and the other does not is the first that does not fit. -/
theorem not_wrongTwice_cons {name value : Datum} {more : List (Datum × Datum)}
    (h : IsName name ↔ ¬ IsValue value) : ¬ WrongTwice ((name, value) :: more) := by
  intro htwice
  cases htwice with
  | here hname hvalue => exact hname (h.2 hvalue)
  | later hname hvalue _ => exact h.1 hname hvalue

/-- How a palette that is made of entries compares with one that is updated with them. -/
inductive Compared (made : Except Refusal Palette) (updated : Outcome) (entries : List (Datum × Datum)) : Prop
  /-- Both hold the same. -/
  | done (q : Palette) (hmade : made = .ok q) (hreply : updated.reply = .ok .done)
      (hpalette : updated.palette = q) (honce : ¬ WrongTwice entries)
  /-- Both fail in the same way. -/
  | alike (r : Refusal) (hmade : made = .error r) (hreply : updated.reply = .error r)
      (honce : ¬ WrongTwice entries)
  /-- Both fail, but in different ways. -/
  | apart (r s : Refusal) (hmade : made = .error r) (hreply : updated.reply = .error s)
      (hdiffer : r.message ≠ s.message) (htwice : WrongTwice entries)

/-- **Entry by entry, both go on together and stop together.** -/
theorem compared_addEntries (p : Palette) (entries : List (Datum × Datum)) :
    Compared (addEntries p entries) (p.update entries) entries := by
  induction entries generalizing p with
  | nil => exact .done p rfl rfl rfl nofun
  | cons entry more ih =>
    obtain ⟨name, value⟩ := entry
    simp only [addEntries, update, set]
    -- Here the value is looked at first and there the name; what both come to depends on the two alone.
    cases hvalue : checkValue name value with
    | error r =>
      have hwrong := not_isValue_of_error hvalue
      cases hname : checkName name with
      | error s =>
        exact .apart r s rfl rfl (message_ne_of_checks hvalue hname) (.here (not_isName_of_error hname) hwrong)
      | ok n =>
        have hfits := exists_checkName_iff.1 ⟨n, hname⟩
        exact .alike r rfl rfl (not_wrongTwice_cons (iff_of_true hfits hwrong))
    | ok v =>
      have hheld := exists_checkValue_iff.1 ⟨v, hvalue⟩
      cases hname : checkName name with
      | error s =>
        have hwrong := not_isName_of_error hname
        exact .alike s rfl rfl (not_wrongTwice_cons (iff_of_false hwrong (not_not_intro hheld)))
      | ok n =>
        have hfits := exists_checkName_iff.1 ⟨n, hname⟩
        have hpassed : WrongTwice ((name, value) :: more) ↔ WrongTwice more :=
          wrongTwice_cons_of_fits hfits hheld
        cases ih (p.put n v) with
        | done q hmade hreply hpalette honce => exact .done q hmade hreply hpalette (hpassed.not.2 honce)
        | alike r hmade hreply honce => exact .alike r hmade hreply (hpassed.not.2 honce)
        | apart r s hmade hreply hdiffer htwice =>
          exact .apart r s hmade hreply hdiffer (hpassed.2 htwice)

section Compared

variable {made : Except Refusal Palette} {updated : Outcome} {entries : List (Datum × Datum)}

theorem Compared.ok_iff (h : Compared made updated entries) {p : Palette} :
    made = .ok p ↔ updated.reply = .ok .done ∧ updated.palette = p := by
  cases h with
  | done q hmade hreply hpalette _ => simp [hmade, hreply, hpalette]
  | alike r hmade hreply _ => simp [hmade, hreply]
  | apart r s hmade hreply _ _ => simp [hmade, hreply]

theorem Compared.error_iff (h : Compared made updated entries) :
    (∃ r, made = .error r) ↔ ∃ s, updated.reply = .error s := by
  cases h with
  | done q hmade hreply _ _ => simp [hmade, hreply]
  | alike r hmade hreply _ => simp [hmade, hreply]
  | apart r s hmade hreply _ _ => simp [hmade, hreply]

theorem Compared.forall_refusals_iff (h : Compared made updated entries) {α : Type} (f : Refusal → α)
    (hf : ∀ r s, r.message ≠ s.message → f r ≠ f s) :
    (∀ r s, made = .error r → updated.reply = .error s → f r = f s) ↔ ¬ WrongTwice entries := by
  cases h with
  | done q hmade hreply _ honce => simp [hmade, honce]
  | alike r hmade hreply honce => simp [hmade, hreply, honce]
  | apart r s hmade hreply hdiffer htwice => simp [hmade, hreply, hf r s hdiffer, htwice]

end Compared

/-- **A palette that is made of entries and an empty one that is updated with them.**  If one of them comes
about, then so does the other, and they hold the same in the same order.  If they fail, they fail in the same
way and with the same message, unless the first entry that does not fit is wrong in its name and in its
value: then both fail, and with different messages. -/
theorem ofEntries_agrees_update (entries : List (Datum × Datum)) :
    (∀ p, ofEntries entries = .ok p ↔
      (perform [] (.update entries)).reply = .ok .done ∧ (perform [] (.update entries)).palette = p) ∧
    ((∃ r, ofEntries entries = .error r) ↔ ∃ s, (perform [] (.update entries)).reply = .error s) ∧
    ((∀ r s, ofEntries entries = .error r → (perform [] (.update entries)).reply = .error s → r = s) ↔
      ¬ WrongTwice entries) ∧
    ((∀ r s, ofEntries entries = .error r → (perform [] (.update entries)).reply = .error s →
      r.message = s.message) ↔ ¬ WrongTwice entries) := by
  have hcompared : Compared (ofEntries entries) (perform [] (.update entries)) entries :=
    compared_addEntries [] entries
  refine ⟨fun _ => hcompared.ok_iff, hcompared.error_iff, hcompared.forall_refusals_iff id ?_,
    hcompared.forall_refusals_iff Refusal.message fun _ _ hdiffer => hdiffer⟩
  exact fun r s hdiffer hsame => hdiffer (congrArg Refusal.message hsame)

/-- A good entry, and then one with a wrong name and a value that fits. -/
def misnamed : List (Datum × Datum) :=
  [(.text "d".toList, .text "38;5".toList), (.text "e f".toList, .text "1".toList)]

/-- An entry with a wrong name that is made or updated with is refused in the same way. -/
theorem ofEntries_agrees_update_misnamed :
    ofEntries misnamed = .error (.nameForm "'e f'".toList) ∧
    (perform [] (.update misnamed)).reply = .error (.nameForm "'e f'".toList) ∧ ¬ WrongTwice misnamed := by
  have hmade : ofEntries misnamed = .error (.nameForm "'e f'".toList) := rfl
  have hreply : (perform [] (.update misnamed)).reply = .error (.nameForm "'e f'".toList) := rfl
  refine ⟨hmade, hreply, (ofEntries_agrees_update misnamed).2.2.1.1 fun r s hr hs => ?_⟩
  exact (Except.error.inj (hr.symm.trans hmade)).trans (Except.error.inj (hreply.symm.trans hs))

/-- An entry that is wrong in its name and in its value. -/
def wrongInBoth : List (Datum × Datum) := [(.text "bad name".toList, .whole 5)]

/-- **Of what is wrong twice, different things are found out first.**  The new palette is refused for its
value, and the update for its name. -/
theorem ofEntries_differs_update :
    ofEntries wrongInBoth = .error (.valueKind "'bad name'".toList .whole) ∧
    (perform [] (.update wrongInBoth)).reply = .error (.nameForm "'bad name'".toList) ∧
    (Refusal.valueKind "'bad name'".toList .whole).message ≠
      (Refusal.nameForm "'bad name'".toList).message := by
  have hvalue : checkValue (.text "bad name".toList) (.whole 5) =
      .error (.valueKind "'bad name'".toList .whole) := rfl
  have hname : checkName (.text "bad name".toList) = .error (.nameForm "'bad name'".toList) := rfl
  exact ⟨rfl, rfl, message_ne_of_checks hvalue hname⟩

end Palette
end TermStyle
