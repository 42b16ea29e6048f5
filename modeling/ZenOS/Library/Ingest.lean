import Mathlib.Data.List.Forall2

/-!
Items that are taken in one after another.  An item may be refused, which ends the run but
keeps what has been taken in before, and reading an item may fail altogether.
-/

namespace ZenOS.Library.Ingest

inductive Outcome (β : Type*) where
  | fault
  | refused
  | accepted (b : β)

variable {ι β : Type*}

/-- Whether all items are taken in, and what has been taken in at the end. -/
def ingest (read : ι → Outcome β) : List ι → List β → Option (Bool × List β)
  | [], taken => some (true, taken)
  | x :: xs, taken =>
      match read x with
      | .fault => none
      | .refused => some (false, taken)
      | .accepted b => ingest read xs (taken ++ [b])

/-- All items are accepted, with these results. -/
abbrev Takes (read : ι → Outcome β) : List ι → List β → Prop :=
  List.Forall₂ fun x b => read x = .accepted b

section Ingest

variable {read : ι → Outcome β} {xs ys : List ι} {x : ι} {b : β} {bs taken taken' : List β}

theorem ingest_cons_accepted (h : read x = .accepted b) :
    ingest read (x :: xs) taken = ingest read xs (taken ++ [b]) := by
  rw [ingest, h]

theorem ingest_cons_refused (h : read x = .refused) :
    ingest read (x :: xs) taken = some (false, taken) := by
  rw [ingest, h]

theorem ingest_cons_fault (h : read x = .fault) : ingest read (x :: xs) taken = none := by
  rw [ingest, h]

theorem ingest_append (h : Takes read xs bs) :
    ingest read (xs ++ ys) taken = ingest read ys (taken ++ bs) := by
  induction h generalizing taken with
  | nil => rw [List.nil_append, List.append_nil]
  | cons hread _ ih => rw [List.cons_append, ingest_cons_accepted hread, ih, List.append_assoc,
      List.singleton_append]

theorem ingest_of_takes (h : Takes read xs bs) :
    ingest read xs taken = some (true, taken ++ bs) := by
  have happend : ingest read (xs ++ []) taken = _ := ingest_append h
  rwa [List.append_nil, ingest] at happend

/-- All items are accepted, or there is a first one that is not. -/
theorem takes_or_first (read : ι → Outcome β) (xs : List ι) :
    (∃ bs, Takes read xs bs) ∨
      ∃ before x behind bs, xs = before ++ x :: behind ∧ Takes read before bs ∧
        (read x = .refused ∨ read x = .fault) := by
  induction xs with
  | nil => exact .inl ⟨[], .nil⟩
  | cons x xs ih =>
      rcases hx : read x with _ | _ | b
      · exact .inr ⟨[], x, xs, [], rfl, .nil, .inr hx⟩
      · exact .inr ⟨[], x, xs, [], rfl, .nil, .inl hx⟩
      · rcases ih with ⟨bs, hbs⟩ | ⟨before, y, behind, bs, rfl, hbs, hy⟩
        · exact .inl ⟨b :: bs, .cons hx hbs⟩
        · exact .inr ⟨x :: before, y, behind, b :: bs, rfl, .cons hx hbs, hy⟩

theorem ingest_of_fault {before behind : List ι} (h : Takes read before bs)
    (hx : read x = .fault) : ingest read (before ++ x :: behind) taken = none := by
  rw [ingest_append h, ingest_cons_fault hx]

theorem ingest_of_refused {before behind : List ι} (h : Takes read before bs)
    (hx : read x = .refused) :
    ingest read (before ++ x :: behind) taken = some (false, taken ++ bs) := by
  rw [ingest_append h, ingest_cons_refused hx]

theorem ingest_eq_none_iff :
    ingest read xs taken = none ↔
      ∃ before x behind bs, xs = before ++ x :: behind ∧ Takes read before bs ∧
        read x = .fault := by
  constructor
  · intro h
    rcases takes_or_first read xs with ⟨bs, hbs⟩ | ⟨before, x, behind, bs, rfl, hbs, hx | hx⟩
    · simp [ingest_of_takes hbs] at h
    · simp [ingest_of_refused hbs hx] at h
    · exact ⟨before, x, behind, bs, rfl, hbs, hx⟩
  · rintro ⟨before, x, behind, bs, rfl, hbs, hx⟩
    exact ingest_of_fault hbs hx

theorem ingest_eq_refused_iff :
    ingest read xs taken = some (false, taken') ↔
      ∃ before x behind bs, xs = before ++ x :: behind ∧ Takes read before bs ∧
        read x = .refused ∧ taken' = taken ++ bs := by
  constructor
  · intro h
    rcases takes_or_first read xs with ⟨bs, hbs⟩ | ⟨before, x, behind, bs, rfl, hbs, hx | hx⟩
    · simp [ingest_of_takes hbs] at h
    · rw [ingest_of_refused hbs hx] at h
      cases h
      exact ⟨before, x, behind, bs, rfl, hbs, hx, rfl⟩
    · simp [ingest_of_fault hbs hx] at h
  · rintro ⟨before, x, behind, bs, rfl, hbs, hx, rfl⟩
    exact ingest_of_refused hbs hx

theorem ingest_eq_done_iff :
    ingest read xs taken = some (true, taken') ↔
      ∃ bs, Takes read xs bs ∧ taken' = taken ++ bs := by
  constructor
  · intro h
    rcases takes_or_first read xs with ⟨bs, hbs⟩ | ⟨before, x, behind, bs, rfl, hbs, hx | hx⟩
    · rw [ingest_of_takes hbs] at h
      cases h
      exact ⟨bs, hbs, rfl⟩
    · simp [ingest_of_refused hbs hx] at h
    · simp [ingest_of_fault hbs hx] at h
  · rintro ⟨bs, hbs, rfl⟩
    exact ingest_of_takes hbs

theorem takes_getElem? (h : Takes read xs bs) {i : Nat} (hx : xs[i]? = some x) :
    ∃ b, bs[i]? = some b ∧ read x = .accepted b := by
  induction h generalizing i with
  | nil => simp at hx
  | cons hread _ ih =>
      cases i with
      | zero =>
          obtain rfl : _ = x := by simpa using hx
          exact ⟨_, rfl, hread⟩
      | succ i => exact ih hx

end Ingest

end ZenOS.Library.Ingest
