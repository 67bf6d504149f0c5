/-
# Requests to a palette

Every request is answered together with the palette after it and the list of its changes,
one for each entry written or removed.  Whoever keeps something that depends on the palette
goes by this list.

| request | changes |
| --- | --- |
| `set`, `setDefault` on an absent name | the entry written, if name and value are accepted |
| `delete`, `pop`, `popFirst` | the entry removed, if there is one |
| `clear` | every entry removed, the first one first |
| `update` | the entries written before the first pair that is not accepted |
| all others | none |

A request that fails leaves the palette as it was (`perform_of_error`); only `update` keeps what it
wrote before the pair that failed.  A palette that reports no change has not changed
(`palette_perform`).
-/

import TermStyle.Palette.Basic

namespace TermStyle
namespace Palette

/-- What a palette can be asked. -/
inductive Request
  /-- Write a value under a name. -/
  | set (name value : Datum)
  /-- The value under a name, which must be there. -/
  | get (name : Datum)
  /-- The value under a name, or nothing. -/
  | lookup (name : Datum)
  /-- The value under a name, or another value. -/
  | getOr (name fallback : Datum)
  /-- Remove the entry of a name, which must be there. -/
  | delete (name : Datum)
  /-- Whether there is an entry of a name. -/
  | has (name : Datum)
  /-- The number of entries. -/
  | size
  /-- The names, in order. -/
  | names
  /-- The entries, in order. -/
  | items
  /-- The shown form. -/
  | shown
  /-- Remove the entry of a name and give its value; an absent name gives the fallback, if
  there is one. -/
  | pop (name : Datum) (fallback : Option Datum)
  /-- Remove the first entry and give it. -/
  | popFirst
  /-- Remove all entries. -/
  | clear
  /-- Write pairs one after another. -/
  | update (pairs : List (Datum × Datum))
  /-- The value under a name; an absent name is first written with the fallback. -/
  | setDefault (name fallback : Datum)
  /-- Whether the entries are the given ones, in any order. -/
  | sameAs (entries : List (Datum × Datum))

/-- What a palette answers. -/
inductive Reply
  /-- It is done. -/
  | done
  /-- A value. -/
  | value (d : Datum)
  /-- Yes or no. -/
  | flag (b : Bool)
  /-- A number. -/
  | count (n : Nat)
  /-- Names. -/
  | names (ns : List Text)
  /-- Entries. -/
  | items (entries : Palette)
  /-- One entry. -/
  | entry (name value : Text)

/-- What comes of a request: the palette after it, its changes in order, and the answer. -/
structure Outcome where
  /-- The palette after the request. -/
  palette : Palette
  /-- The entries written and removed, in order. -/
  changes : List Change
  /-- The answer. -/
  reply : Except Refusal Reply

/-- The outcome of a request that changes nothing. -/
def answer (p : Palette) (reply : Except Refusal Reply) : Outcome := ⟨p, [], reply⟩

/-- The outcome of writing one entry.  Of a pair that is wrong twice, the name is found out
first. -/
def set (p : Palette) (name value : Datum) : Outcome :=
  match checkName name with
  | .error r => p.answer (.error r)
  | .ok n =>
    match checkValue name value with
    | .error r => p.answer (.error r)
    | .ok v => ⟨p.put n v, [.set n v], .ok .done⟩

/-- The outcome of writing one entry that was looked for and is absent: the answer is the value. -/
def setAbsent (p : Palette) (name value : Datum) : Outcome :=
  let written := p.set name value
  { written with reply := written.reply.map fun _ => .value value }

/-- The outcome of removing the entry of a name. -/
def remove (p : Palette) (name : Text) (reply : Reply) : Outcome :=
  ⟨p.erase name, [.removed name], .ok reply⟩

/-- The outcome of removing the entry of a name that may be absent, with the answer made of
its value. -/
def take (p : Palette) (name : Datum) (present : Text → Reply) (missing : Except Refusal Reply) :
    Outcome :=
  match name with
  | .text t =>
    match p.get? t with
    | some v => p.remove t (present v)
    | none => p.answer missing
  | d => p.answer (if isHashable d then missing else .error (.unhashable d.kind))

/-- The outcome of writing pairs one after another. -/
def update : Palette → List (Datum × Datum) → Outcome
  | p, [] => p.answer (.ok .done)
  | p, (name, value) :: more =>
    let first := p.set name value
    match first.reply with
    | .error _ => first
    | .ok _ =>
      let later := update first.palette more
      { later with changes := first.changes ++ later.changes }

/-- A palette does what it is asked. -/
def perform (p : Palette) : Request → Outcome
  | .set name value => p.set name value
  | .get name =>
    p.answer <| match p.find name with
      | .error r => .error r
      | .ok (some v) => .ok (.value (.text v))
      | .ok none => .error (.absent name.shown)
  | .lookup name => p.answer ((p.find name).map fun v => .value ((v.map Datum.text).getD .nothing))
  | .getOr name fallback => p.answer ((p.find name).map fun v => .value ((v.map Datum.text).getD fallback))
  | .delete name => p.take name (fun _ => .done) (.error (.absent name.shown))
  | .has name => p.answer ((p.find name).map fun v => .flag v.isSome)
  | .size => p.answer (.ok (.count p.length))
  | .names => p.answer (.ok (.names p.keys))
  | .items => p.answer (.ok (.items p))
  | .shown => p.answer (.ok (.value (.text p.shown)))
  | .pop name fallback =>
    p.take name (fun v => .value (.text v)) <|
      match fallback with
      | some d => .ok (.value d)
      | none => .error (.absent name.shown)
  | .popFirst =>
    match p with
    | [] => p.answer (.error .empty)
    | (name, v) :: _ => p.remove name (.entry name v)
  | .clear => ⟨[], p.keys.map .removed, .ok .done⟩
  | .update pairs => p.update pairs
  | .setDefault name fallback =>
    match p.find name with
    | .error r => p.answer (.error r)
    | .ok (some v) => p.answer (.ok (.value (.text v)))
    | .ok none => p.setAbsent name fallback
  | .sameAs entries => p.answer (.ok (.flag (p.sameAs entries)))

/-- Whether a request takes names out. -/
def Request.takesOut : Request → Bool
  | .delete _ | .pop _ _ | .popFirst | .clear => true
  | _ => false

/-- **An entry is written if its name and its value are accepted,** and otherwise nothing happens. -/
theorem set_cases (p : Palette) (name value : Datum) :
    (∃ r, p.set name value = p.answer (.error r)) ∨
      ∃ n v, checkName name = .ok n ∧ checkValue name value = .ok v ∧
        p.set name value = ⟨p.put n v, [.set n v], .ok .done⟩ := by
  unfold set
  split
  · exact .inl ⟨_, rfl⟩
  · rename_i n hname
    split
    · exact .inl ⟨_, rfl⟩
    · rename_i v hvalue
      exact .inr ⟨n, v, hname, hvalue, rfl⟩

/-- The entry of a name is removed if there is one, and otherwise nothing happens. -/
theorem take_cases (p : Palette) (name : Datum) (present : Text → Reply)
    (missing : Except Refusal Reply) :
    (∃ reply, p.take name present missing = p.answer reply) ∨
      ∃ n v reply, p.get? n = some v ∧ p.take name present missing = p.remove n reply := by
  unfold take
  split
  · split
    · rename_i hthere
      exact .inr ⟨_, _, _, hthere, rfl⟩
    · exact .inl ⟨_, rfl⟩
  · exact .inl ⟨_, rfl⟩

/-- **What a request can do:** nothing but answer, write one entry, remove one, clear the palette, or
update it. -/
theorem perform_cases (p : Palette) (request : Request) :
    (∃ reply, p.perform request = p.answer reply) ∨
      (∃ name value n v reply, checkName name = .ok n ∧ checkValue name value = .ok v ∧
        p.perform request = ⟨p.put n v, [.set n v], .ok reply⟩) ∨
      (∃ n v reply, request.takesOut = true ∧ p.get? n = some v ∧
        p.perform request = p.remove n reply) ∨
      request = .clear ∨ ∃ pairs, request = .update pairs := by
  cases request with
  | set name value =>
    rcases p.set_cases name value with ⟨r, hset⟩ | ⟨n, v, hname, hvalue, hset⟩
    · exact .inl ⟨_, hset⟩
    · exact .inr (.inl ⟨name, value, n, v, _, hname, hvalue, hset⟩)
  | setDefault name fallback =>
    simp only [perform]
    split
    · exact .inl ⟨_, rfl⟩
    · exact .inl ⟨_, rfl⟩
    · rcases p.set_cases name fallback with ⟨r, hset⟩ | ⟨n, v, hname, hvalue, hset⟩
      · exact .inl ⟨.error r, by rw [setAbsent, hset]; rfl⟩
      · exact .inr (.inl ⟨name, fallback, n, v, .value fallback, hname, hvalue, by rw [setAbsent, hset]; rfl⟩)
  | delete name =>
    rcases p.take_cases name (fun _ => .done) (.error (.absent name.shown)) with
      hnone | ⟨n, v, reply, hthere, hsome⟩
    · exact .inl hnone
    · exact .inr (.inr (.inl ⟨n, v, reply, rfl, hthere, hsome⟩))
  | pop name fallback =>
    simp only [perform]
    rcases p.take_cases name (fun v => .value (.text v)) _ with hnone | ⟨n, v, reply, hthere, hsome⟩
    · exact .inl hnone
    · exact .inr (.inr (.inl ⟨n, v, reply, rfl, hthere, hsome⟩))
  | popFirst =>
    cases p with
    | nil => exact .inl ⟨_, rfl⟩
    | cons entry more =>
      have hfirst : OrderedMap.get? (entry :: more) entry.1 = some entry.2 := by
        rw [OrderedMap.get?, if_pos (beq_self_eq_true entry.1)]
      exact .inr (.inr (.inl ⟨_, _, _, rfl, hfirst, rfl⟩))
  | clear => exact .inr (.inr (.inr (.inl rfl)))
  | update pairs => exact .inr (.inr (.inr (.inr ⟨pairs, rfl⟩)))
  | get | lookup | getOr | has | size | names | items | shown | sameAs => exact .inl ⟨_, rfl⟩

/-- A pair of an update is written before the others, and if it is refused, they are not. -/
theorem update_cases (p : Palette) (name value : Datum) (more : List (Datum × Datum)) :
    (∃ r, p.update ((name, value) :: more) = p.answer (.error r)) ∨
      ∃ n v, checkName name = .ok n ∧ checkValue name value = .ok v ∧
        p.update ((name, value) :: more) =
          { update (p.put n v) more with changes := .set n v :: (update (p.put n v) more).changes } := by
  rcases p.set_cases name value with ⟨r, hset⟩ | ⟨n, v, hname, hvalue, hset⟩
  · exact .inl ⟨r, by rw [update, hset]; rfl⟩
  · exact .inr ⟨n, v, hname, hvalue, by rw [update, hset]; rfl⟩

/-- **A request that fails leaves the palette as it was and reports no change,** unless it is an
update, which keeps what it wrote before. -/
theorem perform_of_error {p : Palette} {request : Request} {r : Refusal}
    (h : (p.perform request).reply = .error r) (hupdate : ∀ pairs, request ≠ .update pairs) :
    p.perform request = p.answer (.error r) := by
  rcases p.perform_cases request with ⟨reply, hdoes⟩ | ⟨_, _, _, _, _, -, -, hdoes⟩ |
    ⟨_, _, _, -, -, hdoes⟩ |
    rfl | ⟨pairs, rfl⟩
  · rw [hdoes] at h ⊢
    exact congrArg p.answer h
  · rw [hdoes] at h
    cases h
  · rw [hdoes] at h
    cases h
  · cases h
  · exact absurd rfl (hupdate pairs)

/-- **A palette that reports no change has not changed.** -/
theorem palette_perform {p : Palette} {request : Request} (h : (p.perform request).changes = []) :
    (p.perform request).palette = p := by
  rcases p.perform_cases request with ⟨_, hdoes⟩ | ⟨_, _, _, _, _, -, -, hdoes⟩ |
    ⟨_, _, _, -, -, hdoes⟩ |
    rfl | ⟨pairs, rfl⟩
  · rw [hdoes]
    rfl
  · rw [hdoes] at h
    cases h
  · rw [hdoes] at h
    cases h
  · have hp : p = [] := by simpa [perform, OrderedMap.keys] using h
    exact hp.symm
  · cases pairs with
    | nil => rfl
    | cons pair more =>
      rcases p.update_cases pair.1 pair.2 more with ⟨_, hdoes⟩ | ⟨_, _, -, -, hdoes⟩
      · rw [perform, hdoes]
        rfl
      · rw [perform, hdoes] at h
        cases h

end Palette
end TermStyle
