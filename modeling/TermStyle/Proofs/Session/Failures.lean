/-
# What failures leave behind

A command can fail early or late: a setting is refused before anything is written, a name is not
there, and painting ends at the first tag that does not resolve, when others before it have been
looked up.

| what fails | what it leaves |
| --- | --- |
| a setting, or a request to the palette other than `update` | the session as it was |
| resolving, painting and a builder that is applied | the session but for one cache |

What such a cache holds more than before are sequences of expressions that did resolve
(`LookUps.mem_entries`).  In neither case is anything told (`execute_of_error`).
-/

import TermStyle.Proofs.Engine.Coherence

namespace TermStyle

set_option maxRecDepth 4000

namespace Engine

/-- **What looking up leaves in the cache** was there, or is what its expression resolves to. -/
theorem LookUps.mem_entries {e f : Engine} (h : LookUps e f) {entry : Text × Text}
    (hentry : entry ∈ f.cache.entries) :
    entry ∈ e.cache.entries ∨ Expression.resolve e.palette entry.1 = .ok entry.2 := by
  induction h with
  | none => exact .inl hentry
  | @more e f x _ ih =>
    have hpalette := (lookUp_sameButCache e x).2
    rcases ih hentry with hafter | hresolved
    · unfold lookUp at hafter
      split at hafter
      · exact Cache.mem_entries_get hafter
      · exact .inl hafter
    · exact .inr (hpalette ▸ hresolved)

end Engine

namespace Session

/-- Whether a request draws: it resolves, and uses the cache even where it fails. -/
def Request.draws : Request → Bool
  | .resolve _ | .paint _ | .rawPaint _ | .resetSequence => true
  | _ => false

/-- Whether a command draws. -/
def Command.draws : Command → Bool
  | .ask _ request => request.draws
  | .apply _ _ => true
  | _ => false

/-- What it is to store an engine in the place of another. -/
theorem store_eq {s : Session} {number config : Nat} {e : Engine}
    (h : s.holdings[number]? = some ⟨config, e.palette, e.cache⟩) (f : Engine) :
    s.store number f = { s with
      configs := s.configs.set config f.config
      holdings := s.holdings.set number ⟨config, f.palette, f.cache⟩ } := by
  simp only [store, h]

/-- To write what is there changes nothing. -/
theorem set_of_getElem? {α : Type} {l : List α} {n : Nat} {a : α} (h : l[n]? = some a) : l.set n a = l := by
  obtain ⟨_, rfl⟩ := List.getElem?_eq_some_iff.1 h
  exact List.set_getElem_self _

/-- To store an engine that is there changes nothing. -/
theorem store_self {s : Session} {number : Nat} {e : Engine} (h : s.engineAt? number = some e) :
    s.store number e = s := by
  obtain ⟨config, hheld, hconfig⟩ := engineAt?_eq_some_iff.1 h
  rw [store_eq hheld, set_of_getElem? hheld, set_of_getElem? hconfig]

/-- **An engine that has changed nothing but its cache** is stored without a trace in the others. -/
theorem engineAt?_store {s : Session} {number : Nat} {e f : Engine} (h : s.engineAt? number = some e)
    (hf : Engine.SameButCache e f) (other : Nat) :
    (s.store number f).engineAt? other = if other = number then some f else s.engineAt? other := by
  obtain ⟨config, hheld, hconfig⟩ := engineAt?_eq_some_iff.1 h
  rw [store_eq hheld, hf.1, set_of_getElem? hconfig]
  split
  · rename_i hsame
    rw [engineAt?_eq_some_iff, hsame, hf.1]
    exact ⟨config, List.getElem?_set_self (List.getElem?_eq_some_iff.1 hheld).1, hconfig⟩
  · rename_i hother
    simp only [engineAt?, List.getElem?_set_ne (Ne.symm hother)]

/-- What can come of a command that fails: nothing, or what looking up leaves where it draws. -/
inductive Failing (s : Session) (draws : Bool) : Outcome → Prop
  /-- The session stays as it was. -/
  | same (fault : Fault) : Failing s draws (s.reply (.error fault))
  /-- One engine has looked expressions up. -/
  | drawn {number : Nat} {e f : Engine} (fault : Fault) (hdraws : draws = true)
      (at_number : s.engineAt? number = some e) (lookUps : Engine.LookUps e f) :
      Failing s draws ⟨s.store number f, [], .error fault⟩

theorem failing_drawn {s : Session} {number : Nat} {e : Engine} (he : s.engineAt? number = some e)
    {d : Except Engine.Refusal Text × Engine} (hl : Engine.LookUps e d.2) {fault : Fault}
    (h : (s.drawn number d).answer = .error fault) : Failing s true (s.drawn number d) := by
  obtain ⟨answer, f⟩ := d
  cases answer with
  | ok t => cases h
  | error u => exact .drawn _ rfl he hl

theorem failing_serve {s : Session} {number : Nat} {e : Engine} (he : s.engineAt? number = some e)
    {request : Request} {fault : Fault} (h : (s.serve number e request).answer = .error fault)
    (hupdate : ∀ pairs, request ≠ .palette (.update pairs)) :
    Failing s request.draws (s.serve number e request) := by
  cases request with
  | resolve x =>
    simp only [serve] at h ⊢
    split at h
    · exact .same _
    · exact failing_drawn he (e.lookUps_resolve _) h
  | paint parts =>
    simp only [serve] at h ⊢
    split at h
    · exact .same _
    · exact failing_drawn he (e.lookUps_paint _) h
  | rawPaint parts =>
    simp only [serve] at h ⊢
    split at h
    · exact .same _
    · exact failing_drawn he (e.lookUps_rawPaint _) h
  | noPaint parts =>
    simp only [serve] at h ⊢
    split at h
    · exact .same _
    · rename_i t _
      have hleft : ((e.unpaint t).map Answer.text).mapError Fault.engine = .error fault := h
      exact hleft ▸ .same fault
  | resetSequence => exact failing_drawn he (e.lookUps_resolve _) h
  | set setting =>
    simp only [serve] at h
    split at h
    · cases h
    · rename_i r hr
      have hserve : s.serve number e (.set setting) = s.reply (.error (.engine r)) := by
        simp only [serve, Engine.set_of_error hr, store_self he, reply]
      exact hserve ▸ .same _
  | palette request =>
    simp only [serve] at h
    split at h
    · cases h
    · rename_i r hr
      have hsame := e.askPalette_of_error hr fun pairs hp => hupdate pairs (congrArg _ hp)
      have hserve : s.serve number e (.palette request) =
          s.reply (.error (.engine (.palette r))) := by
        simp only [serve, hsame, store_self he, reply]
      exact hserve ▸ .same _
  | style name keywords =>
    simp only [serve] at h ⊢
    split at h
    · exact .same _
    · cases h
  | setup | shown | get | config => cases h

/-- **A command that fails leaves the session as it was,** or, where it draws, but for what one engine
has looked up. -/
theorem failing_execute {s : Session} {c : Command} {fault : Fault}
    (h : (s.execute c).answer = .error fault)
    (hupdate : ∀ name pairs, c ≠ .ask name (.palette (.update pairs))) :
    Failing s c.draws (s.execute c) := by
  cases c with
  | create name origin =>
    cases origin with
    | settings settings =>
      simp only [execute, create] at h ⊢
      split at h
      · exact .same _
      · split at h
        · exact .same _
        · cases h
    | shared other =>
      simp only [execute, create] at h ⊢
      split at h
      · exact .same _
      · split at h
        · exact .same _
        · exact .same _
        · cases h
  | ask name request =>
    simp only [execute] at h ⊢
    split at h
    · exact .same _
    · rename_i hfound
      exact failing_serve (engineAt?_of_engine hfound) h fun pairs hp => hupdate name pairs (congrArg _ hp)
  | chain source steps name =>
    simp only [execute] at h ⊢
    split at h
    · exact .same _
    · split at h
      · exact .same _
      · cases h
  | apply name parts =>
    simp only [execute] at h ⊢
    split at h
    · exact .same _
    · split at h
      · exact .same _
      · rename_i e he
        split at h
        · exact .same _
        · exact failing_drawn he (e.lookUps_paintStyled _ _) h
  | showBuilder name | getBuilder name =>
    simp only [execute] at h ⊢
    split at h
    · exact .same _
    · cases h

/-- **Failures leave the state intact.**  A command that fails tells nothing, whatever it is, except for
an update of a palette.  If it does not draw, the session stays as it was: configurations, palettes,
caches with their order and their counts, and names.  If it draws, engines and builders keep their
names, and every engine keeps its configuration and its palette; what its cache did not hold before
is the sequence of an expression that resolves. -/
theorem execute_of_error {s : Session} {c : Command} {fault : Fault}
    (h : (s.execute c).answer = .error fault)
    (hupdate : ∀ name pairs, c ≠ .ask name (.palette (.update pairs))) :
    (s.execute c).log = [] ∧
    (c.draws = false → (s.execute c).session = s) ∧
    ((s.execute c).session.engines = s.engines ∧ (s.execute c).session.builders = s.builders) ∧
    ∀ number e, s.engineAt? number = some e → ∃ f, (s.execute c).session.engineAt? number = some f ∧
      f.config = e.config ∧ f.palette = e.palette ∧
        ∀ entry ∈ f.cache.entries, entry ∈ e.cache.entries ∨
          Expression.resolve e.palette entry.1 = .ok entry.2 := by
  have hfailing := failing_execute h hupdate
  generalize s.execute c = outcome at hfailing
  cases hfailing with
  | same fault => exact ⟨rfl, fun _ => rfl, ⟨rfl, rfl⟩, fun _ e he => ⟨e, he, rfl, rfl, fun _ => .inl⟩⟩
  | @drawn number e f fault hdraws he hl =>
    have hsame := hl.sameButCache
    refine ⟨rfl, fun hnot => Bool.noConfusion (hdraws.symm.trans hnot), ?_, ?_⟩
    · obtain ⟨config, hheld, -⟩ := engineAt?_eq_some_iff.1 he
      rw [store_eq hheld]
      exact ⟨rfl, rfl⟩
    · intro other d hd
      rw [engineAt?_store he hsame]
      split
      · rename_i hother
        rw [hother, he] at hd
        cases hd
        exact ⟨f, rfl, hsame.1, hsame.2, fun _ => hl.mem_entries⟩
      · exact ⟨d, hd, rfl, rfl, fun _ => .inl⟩

/-- A session with one engine. -/
def single : Session := (empty.execute (.create "a".toList (.settings {}))).session

/-- Painting that fails at the second of two tags: the first one has been looked up. -/
def halfway : Command :=
  .ask "a".toList (.paint [.datum (.text "${bold}${none}".toList)])

/-- A setting that is refused. -/
def refused : Command := .ask "a".toList (.set (.enabled (.text "yes".toList)))

/-- What `refused` and `halfway` leave of the session. -/
theorem execute_of_error_single :
    (∃ fault, (single.execute refused).answer = .error fault) ∧ (single.execute refused).session = single ∧
    (∃ fault, (single.execute halfway).answer = .error fault) ∧ (single.execute halfway).log = [] ∧
    ∃ f, (single.execute halfway).session.engineAt? 0 = some f ∧ f.palette = [] ∧
      ∀ entry ∈ f.cache.entries, entry ∈ (Cache.new (some 1024) : Cache Text Text).entries ∨
        Expression.resolve [] entry.1 = .ok entry.2 := by
  have hrefused : ∃ fault, (single.execute refused).answer = .error fault := ⟨_, rfl⟩
  have hhalfway : ∃ fault, (single.execute halfway).answer = .error fault := by
    cases hanswer : (single.execute halfway).answer with
    | error fault => exact ⟨fault, rfl⟩
    | ok answer =>
      have hfails : (single.execute halfway).answer.toOption.isNone = true := by decide
      rw [hanswer] at hfails
      cases hfails
  obtain ⟨_, hfault⟩ := hrefused
  obtain ⟨_, hfault'⟩ := hhalfway
  have hsame := (execute_of_error hfault fun _ _ => nofun).2.1 rfl
  obtain ⟨hlog, -, -, hengines⟩ := execute_of_error hfault' fun _ _ => nofun
  obtain ⟨f, hf, -, hpalette, hentries⟩ := hengines 0 ⟨Config.standard, [], .new (some 1024)⟩ rfl
  exact ⟨⟨_, hfault⟩, hsame, ⟨_, hfault'⟩, hlog, f, hf, hpalette, hentries⟩

end Session
end TermStyle
