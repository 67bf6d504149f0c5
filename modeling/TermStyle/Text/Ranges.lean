/-
# Classes of characters as ranges

A property of characters that a standard defines by data is a list of ranges of code
points, in increasing order.  `Ranges.has` looks a code point up and stops at the first
range that begins above it, so the common characters, which come first, are found after
a few comparisons.

Spans that come in any order, and may overlap, are put in one at a time: `Ranges.insert` merges a
span with the ranges that it meets or touches, so that the order stays (`increasing_insert`) and
exactly the code points of the span are new (`mem_insert`).

A class that is asked for every character of a text is kept as a search tree instead, made from
its list once.  The tree has the same ranges (`toList_ofRanges`) and holds the same code points
(`has_ofRanges`, `has_ofSpans`).
-/

namespace TermStyle
namespace Text

/-- Closed ranges of code points, in increasing order. -/
abbrev Ranges := List (Nat × Nat)

namespace Ranges

/-- Whether a code point lies in one of the ranges. -/
def has : Ranges → Nat → Bool
  | [], _ => false
  | (first, last) :: more, n => first ≤ n && (n ≤ last || has more n)

/-- The ranges with one more span, merged with what it meets or touches. -/
def insert (first last : Nat) : Ranges → Ranges
  | [] => [(first, last)]
  | r :: more =>
    if last + 1 < r.1 then (first, last) :: r :: more
    else if r.2 + 1 < first then r :: insert first last more
    else insert (min first r.1) (max last r.2) more

/-- The ranges of spans in any order. -/
def ofSpans (spans : List (Nat × Nat)) : Ranges :=
  spans.foldr (fun s rs => rs.insert s.1 s.2) []

/-- Ranges in increasing order, none of them without a code point. -/
def Increasing (rs : Ranges) : Prop :=
  (rs.Pairwise fun r s => r.2 < s.1) ∧ ∀ r ∈ rs, r.1 ≤ r.2

/-- A range begins where one of those before did, or where the new span does. -/
theorem left_insert {first last : Nat} {rs : Ranges} {s : Nat × Nat}
    (hs : s ∈ rs.insert first last) : s.1 = first ∨ ∃ r ∈ rs, s.1 = r.1 := by
  induction rs generalizing first last with
  | nil => simp_all [insert]
  | cons r more ih =>
    simp only [insert] at hs
    split at hs
    · rcases List.mem_cons.1 hs with rfl | hs
      · exact Or.inl rfl
      · exact Or.inr ⟨s, hs, rfl⟩
    · split at hs
      · rcases List.mem_cons.1 hs with rfl | hs
        · exact Or.inr ⟨s, by simp, rfl⟩
        · rcases ih hs with h | ⟨t, ht, h⟩
          · exact Or.inl h
          · exact Or.inr ⟨t, by simp [ht], h⟩
      · rcases ih hs with h | ⟨t, ht, h⟩
        · rcases Nat.le_total first r.1 with hle | hle
          · exact Or.inl (by omega)
          · exact Or.inr ⟨r, by simp, by omega⟩
        · exact Or.inr ⟨t, by simp [ht], h⟩

/-- **The order stays.** -/
theorem increasing_insert {rs : Ranges} (hrs : rs.Increasing) {first last : Nat}
    (hle : first ≤ last) : (rs.insert first last).Increasing := by
  induction rs generalizing first last with
  | nil => exact ⟨by simp [insert], by simp [insert, hle]⟩
  | cons r more ih =>
    obtain ⟨hp, hr⟩ := hrs
    obtain ⟨hfirst, hp⟩ := List.pairwise_cons.1 hp
    have hmore : Increasing more := ⟨hp, fun t ht => hr t (by simp [ht])⟩
    have hself := hr r (by simp)
    simp only [insert]
    split
    · refine ⟨List.pairwise_cons.2 ⟨fun t ht => ?_, List.pairwise_cons.2 ⟨hfirst, hp⟩⟩, ?_⟩
      · rcases List.mem_cons.1 ht with rfl | ht
        · simp only; omega
        · have := hfirst t ht
          simp only; omega
      · intro t ht
        rcases List.mem_cons.1 ht with rfl | ht
        · exact hle
        · exact hr t ht
    · split
      · obtain ⟨hp', hr'⟩ := ih hmore hle
        refine ⟨List.pairwise_cons.2 ⟨fun t ht => ?_, hp'⟩, ?_⟩
        · rcases left_insert ht with h | ⟨u, hu, h⟩
          · omega
          · have := hfirst u hu
            omega
        · intro t ht
          rcases List.mem_cons.1 ht with rfl | ht
          · exact hself
          · exact hr' t ht
      · exact ih hmore (by omega)

/-- **Exactly the code points of the span are new.** -/
theorem mem_insert {rs : Ranges} (hrs : ∀ r ∈ rs, r.1 ≤ r.2) {first last : Nat}
    (hle : first ≤ last) (n : Nat) :
    (∃ r ∈ rs.insert first last, r.1 ≤ n ∧ n ≤ r.2) ↔
      (first ≤ n ∧ n ≤ last) ∨ ∃ r ∈ rs, r.1 ≤ n ∧ n ≤ r.2 := by
  induction rs generalizing first last with
  | nil => simp [insert]
  | cons r more ih =>
    have hself := hrs r (by simp)
    have hmore : ∀ t ∈ more, t.1 ≤ t.2 := fun t ht => hrs t (by simp [ht])
    simp only [insert]
    split
    · simp
    · split
      · simp only [List.mem_cons, exists_eq_or_imp, ih hmore hle]
        exact or_left_comm
      · have hunion : min first r.1 ≤ max last r.2 := by omega
        simp only [List.mem_cons, exists_eq_or_imp, ih hmore hunion, ← or_assoc]
        exact or_congr_left (by omega)

/-- **What is found lies in a listed range.** -/
theorem exists_mem_of_has {rs : Ranges} {n : Nat} (h : rs.has n = true) :
    ∃ r ∈ rs, r.1 ≤ n ∧ n ≤ r.2 := by
  induction rs with
  | nil => simp [has] at h
  | cons r more ih =>
    simp only [has, Bool.and_eq_true, Bool.or_eq_true, decide_eq_true_eq] at h
    rcases h.2 with h2 | h2
    · exact ⟨r, by simp, h.1, h2⟩
    · obtain ⟨s, hs, hn⟩ := ih h2
      exact ⟨s, by simp [hs], hn⟩

/-- **In an increasing list the lookup misses nothing.** -/
theorem has_of_mem {rs : Ranges} (hs : rs.Pairwise fun r s => r.2 < s.1) {r : Nat × Nat}
    (hr : r ∈ rs) {n : Nat} (h1 : r.1 ≤ n) (h2 : n ≤ r.2) (hle : ∀ s ∈ rs, s.1 ≤ s.2) :
    rs.has n = true := by
  induction rs with
  | nil => simp at hr
  | cons s more ih =>
    obtain ⟨hlt, hs⟩ := List.pairwise_cons.1 hs
    simp only [has, Bool.and_eq_true, Bool.or_eq_true, decide_eq_true_eq]
    rcases List.mem_cons.1 hr with rfl | hr
    · exact ⟨h1, Or.inl h2⟩
    · have := hlt r hr
      have := hle s (by simp)
      exact ⟨by omega, Or.inr (ih hs hr fun t ht => hle t (by simp [ht]))⟩

/-- The ranges of spans increase. -/
theorem increasing_ofSpans {spans : List (Nat × Nat)} (hspans : ∀ s ∈ spans, s.1 ≤ s.2) :
    (ofSpans spans).Increasing := by
  induction spans with
  | nil => exact ⟨.nil, by simp [ofSpans]⟩
  | cons s spans ih =>
    exact increasing_insert (ih fun t ht => hspans t (by simp [ht])) (hspans s (by simp))

/-- The ranges of spans have the code points of the spans. -/
theorem mem_ofSpans {spans : List (Nat × Nat)} (hspans : ∀ s ∈ spans, s.1 ≤ s.2) (n : Nat) :
    (∃ r ∈ ofSpans spans, r.1 ≤ n ∧ n ≤ r.2) ↔ ∃ s ∈ spans, s.1 ≤ n ∧ n ≤ s.2 := by
  induction spans with
  | nil => simp [ofSpans]
  | cons s spans ih =>
    have hmore : ∀ t ∈ spans, t.1 ≤ t.2 := fun t ht => hspans t (by simp [ht])
    simp only [List.mem_cons, exists_eq_or_imp, ← ih hmore]
    exact mem_insert (increasing_ofSpans hmore).2 (hspans s (by simp)) n

end Ranges

/-- Ranges of code points in a search tree. -/
inductive RangeTree
  /-- No range. -/
  | leaf
  /-- A range, those below it and those above it. -/
  | node (below : RangeTree) (first last : Nat) (above : RangeTree)
  deriving DecidableEq, Repr

namespace RangeTree

/-- Whether a code point lies in one of the ranges. -/
def has : RangeTree → Nat → Bool
  | .leaf, _ => false
  | .node below first last above, n =>
    if n < first then below.has n else n ≤ last || above.has n

/-- The ranges, in order. -/
def toList : RangeTree → Ranges
  | .leaf => []
  | .node below first last above => below.toList ++ (first, last) :: above.toList

/-- A tree of the given depth with the first ranges of a list, as many as it takes, and the
ranges that are left. -/
def build : Nat → Ranges → RangeTree × Ranges
  | 0, rs => (.leaf, rs)
  | depth + 1, rs =>
    let (below, rest) := build depth rs
    match rest with
    | [] => (below, [])
    | r :: rest =>
      let (above, left) := build depth rest
      (.node below r.1 r.2 above, left)

/-- A tree with the ranges of a list. -/
def ofRanges (rs : Ranges) : RangeTree := (build (rs.length.log2 + 1) rs).1

/-- A tree takes ranges off the front of the list. -/
theorem toList_build (depth : Nat) (rs : Ranges) :
    (build depth rs).1.toList ++ (build depth rs).2 = rs := by
  induction depth generalizing rs with
  | zero => rfl
  | succ depth ih =>
    have below := ih rs
    simp only [build]
    split
    · rename_i h
      simpa [h] using below
    · rename_i r rest h
      have above := ih rest
      rw [h] at below
      simp only [toList, List.append_assoc, List.cons_append]
      rw [above]
      exact below

/-- A tree of a depth takes all ranges of a list that is shorter than two to that depth. -/
theorem length_build (depth : Nat) (rs : Ranges) :
    (build depth rs).2.length ≤ rs.length - (Nat.pow 2 depth - 1) := by
  induction depth generalizing rs with
  | zero => simp [build, Nat.pow]
  | succ depth ih =>
    have below := ih rs
    simp only [build]
    split
    · simp
    · rename_i r rest h
      have above := ih rest
      rw [h, List.length_cons] at below
      have hpos : 1 ≤ Nat.pow 2 depth := Nat.one_le_two_pow
      have hdouble : Nat.pow 2 (depth + 1) = Nat.pow 2 depth * 2 := rfl
      rw [hdouble]
      dsimp only
      omega

/-- **The tree has the ranges of its list.** -/
theorem toList_ofRanges (rs : Ranges) : (ofRanges rs).toList = rs := by
  have hlen := length_build (rs.length.log2 + 1) rs
  have hlt : rs.length < Nat.pow 2 (rs.length.log2 + 1) := Nat.lt_log2_self
  have hnil : (build (rs.length.log2 + 1) rs).2 = [] :=
    List.eq_nil_of_length_eq_zero (by omega)
  have := toList_build (rs.length.log2 + 1) rs
  rwa [hnil, List.append_nil] at this

/-- In a tree whose ranges increase, a search finds exactly what lies in a range. -/
theorem has_iff {t : RangeTree} (ht : t.toList.Pairwise fun r s => r.2 < s.1)
    (hle : ∀ r ∈ t.toList, r.1 ≤ r.2) {n : Nat} :
    t.has n = true ↔ ∃ r ∈ t.toList, r.1 ≤ n ∧ n ≤ r.2 := by
  induction t with
  | leaf => simp [has, toList]
  | node below first last above ihb iha =>
    simp only [toList, List.pairwise_append, List.pairwise_cons, List.mem_cons, List.mem_append] at ht hle ⊢
    obtain ⟨hb, ⟨hfirst, ha⟩, hba⟩ := ht
    have ihb := ihb hb fun r hr => hle r (Or.inl hr)
    have iha := iha ha fun r hr => hle r (Or.inr (Or.inr hr))
    have hself := hle (first, last) (Or.inr (Or.inl rfl))
    simp only [has]
    split
    · rename_i hn
      rw [ihb]
      constructor
      · rintro ⟨r, hr, h⟩
        exact ⟨r, Or.inl hr, h⟩
      · rintro ⟨r, hr | rfl | hr, h⟩
        · exact ⟨r, hr, h⟩
        · omega
        · have := hfirst r hr
          omega
    · rename_i hn
      simp only [Bool.or_eq_true, decide_eq_true_eq, iha]
      constructor
      · rintro (h | ⟨r, hr, h⟩)
        · exact ⟨(first, last), Or.inr (Or.inl rfl), by omega, h⟩
        · exact ⟨r, Or.inr (Or.inr hr), h⟩
      · rintro ⟨r, hr | rfl | hr, h⟩
        · have := hba r hr (first, last) (Or.inl rfl)
          simp only at this
          omega
        · exact Or.inl h.2
        · exact Or.inr ⟨r, hr, h⟩

/-- **Tree and list hold the same code points.** -/
theorem has_ofRanges {rs : Ranges} (hs : rs.Pairwise fun r s => r.2 < s.1)
    (hle : ∀ r ∈ rs, r.1 ≤ r.2) (n : Nat) : (ofRanges rs).has n = rs.has n := by
  have h := has_iff (t := ofRanges rs) (by rwa [toList_ofRanges]) (by rwa [toList_ofRanges]) (n := n)
  rw [toList_ofRanges] at h
  rw [Bool.eq_iff_iff, h]
  constructor
  · rintro ⟨r, hr, h1, h2⟩
    exact Ranges.has_of_mem hs hr h1 h2 hle
  · exact Ranges.exists_mem_of_has

/-- **A tree made of spans holds exactly their code points.** -/
theorem has_ofSpans {spans : List (Nat × Nat)} (hspans : ∀ s ∈ spans, s.1 ≤ s.2) (n : Nat) :
    (ofRanges (Ranges.ofSpans spans)).has n = spans.any fun s => s.1 ≤ n && n ≤ s.2 := by
  obtain ⟨hp, hle⟩ := Ranges.increasing_ofSpans hspans
  rw [Bool.eq_iff_iff, has_iff (by rwa [toList_ofRanges]) (by rwa [toList_ofRanges]),
    toList_ofRanges, Ranges.mem_ofSpans hspans]
  simp

end RangeTree

end Text
end TermStyle
