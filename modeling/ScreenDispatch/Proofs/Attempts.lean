import Mathlib.Data.List.Forall2

/-!
Steps that may fail: one after the other, behind a check and along a list.
-/
set_option autoImplicit false

namespace ScreenDispatch

variable {ε α β : Type}

theorem bind_ok (x : Except ε α) (f : α → Except ε β) (b : β) (done : x >>= f = .ok b) :
    ∃ a, x = .ok a ∧ f a = .ok b := by
  cases x with
  | error e => cases done
  | ok a => exact ⟨a, rfl, done⟩

theorem bind_ok_iff (x : Except ε α) (f : α → Except ε β) (b : β) :
    x >>= f = .ok b ↔ ∃ a, x = .ok a ∧ f a = .ok b := by
  constructor
  · exact bind_ok x f b
  · rintro ⟨a, rfl, done⟩
    exact done

theorem bind_error_iff (x : Except ε α) (f : α → Except ε β) (e : ε) :
    x >>= f = .error e ↔ x = .error e ∨ ∃ a, x = .ok a ∧ f a = .error e := by
  cases x with
  | error found =>
      constructor
      · intro same
        cases same
        exact .inl rfl
      · rintro (same | ⟨a, other, -⟩)
        · cases same
          rfl
        · cases other
  | ok a =>
      constructor
      · intro failed
        exact .inr ⟨a, rfl, failed⟩
      · rintro (same | ⟨b, same, failed⟩)
        · cases same
        · cases same
          exact failed

def failure? : Except ε α → Option ε
  | .error e => some e
  | .ok _ => none

theorem failure_iff (x : Except ε α) (e : ε) : failure? x = some e ↔ x = .error e := by
  cases x <;> simp [failure?]

theorem no_failure_iff (x : Except ε α) : failure? x = none ↔ ∃ a, x = .ok a := by
  cases x <;> simp [failure?]

theorem failure_bind_or (x : Except ε α) (f : α → Except ε β) (next : Option ε)
    (onward : ∀ a, x = .ok a → failure? (f a) = next) : failure? (x >>= f) = (failure? x).or next := by
  cases x with
  | error e => rfl
  | ok a => exact onward a rfl

theorem failure_check (p : Prop) [Decidable p] (e : ε) (x y : Except ε β) (stops : x = .error e) :
    failure? (if p then x else y) = (if p then some e else none).or (failure? y) := by
  by_cases broken : p
  · simp only [if_pos broken, stops]
    rfl
  · simp only [if_neg broken, Option.none_or]

theorem map_error_ok {η : Type} (f : ε → η) (x : Except ε α) (a : α) (done : x.mapError f = .ok a) :
    x = .ok a := by
  cases x with
  | error e => cases done
  | ok b => exact congrArg Except.ok (Except.ok.inj done)

theorem map_error_ok_iff {η : Type} (f : ε → η) (x : Except ε α) (a : α) :
    x.mapError f = .ok a ↔ x = .ok a := by
  constructor
  · exact map_error_ok f x a
  · rintro rfl
    rfl

theorem map_error_error_iff {η : Type} (f : ε → η) (x : Except ε α) (e : η) :
    x.mapError f = .error e ↔ ∃ cause, x = .error cause ∧ e = f cause := by
  cases x with
  | error cause => simp [Except.mapError, eq_comm]
  | ok a => exact iff_of_false nofun nofun

theorem check_ok_iff (p : Prop) [Decidable p] (e : ε) (f : Unit → Except ε β) (b : β) :
    (if p then Except.error e >>= f else f ()) = .ok b ↔ ¬ p ∧ f () = .ok b := by
  by_cases broken : p
  · rw [if_pos broken]
    exact ⟨nofun, fun both => absurd broken both.1⟩
  · rw [if_neg broken]
    exact ⟨fun done => ⟨broken, done⟩, And.right⟩

theorem ok_of_is_ok (x : Except ε α) (fine : x.isOk = true) : ∃ a, x = .ok a := by
  cases x with
  | error e => cases fine
  | ok a => exact ⟨a, rfl⟩

theorem error_of_not_ok (x : Except ε α) (never : ¬ ∃ a, x = .ok a) : ∃ e, x = .error e := by
  cases x with
  | error e => exact ⟨e, rfl⟩
  | ok a => exact absurd ⟨a, rfl⟩ never

theorem forall₂_source {R : α → β → Prop} (xs : List α) (ys : List β) (each : List.Forall₂ R xs ys) (y : β)
    (member : y ∈ ys) : ∃ x ∈ xs, R x y := by
  induction each with
  | nil => cases member
  | cons first _ ih =>
      rcases List.mem_cons.mp member with rfl | later
      · exact ⟨_, List.mem_cons_self, first⟩
      · obtain ⟨x, inside, related⟩ := ih later
        exact ⟨x, List.mem_cons_of_mem _ inside, related⟩

theorem map_m_ok (f : α → Except ε β) (xs : List α) (ys : List β) (done : xs.mapM f = .ok ys) :
    List.Forall₂ (fun x y => f x = .ok y) xs ys := by
  induction xs generalizing ys with
  | nil =>
      cases done
      exact .nil
  | cons x tail ih =>
      rw [List.mapM_cons] at done
      obtain ⟨y, first, others⟩ := bind_ok _ _ _ done
      obtain ⟨rest, tail_done, same⟩ := bind_ok _ _ _ others
      obtain rfl := Except.ok.inj same
      exact .cons first (ih rest tail_done)

theorem map_m_ok_iff (f : α → Except ε β) (xs : List α) (ys : List β) :
    xs.mapM f = .ok ys ↔ List.Forall₂ (fun x y => f x = .ok y) xs ys := by
  constructor
  · exact map_m_ok f xs ys
  · intro each
    induction each with
    | nil => rfl
    | cons first _ ih =>
        rw [List.mapM_cons, first, ih]
        rfl

theorem map_m_error (f : α → Except ε β) (xs : List α) (e : ε) (stopped : xs.mapM f = .error e) :
    ∃ before x after, xs = before ++ x :: after ∧ (∀ b ∈ before, ∃ y, f b = .ok y) ∧ f x = .error e := by
  induction xs with
  | nil => cases stopped
  | cons x tail ih =>
      rw [List.mapM_cons] at stopped
      cases first : f x with
      | error found =>
          simp only [first, bind, Except.bind, Except.error.injEq] at stopped
          subst stopped
          exact ⟨[], x, tail, rfl, by simp, first⟩
      | ok y =>
          cases others : tail.mapM f with
          | ok rest => simp [first, others, bind, Except.bind, pure, Except.pure] at stopped
          | error found =>
              simp only [first, others, bind, Except.bind, Except.error.injEq] at stopped
              subst stopped
              obtain ⟨before, bad, after, split, good, failing⟩ := ih others
              refine ⟨x :: before, bad, after, by rw [split]; rfl, ?_, failing⟩
              intro b member
              rcases List.mem_cons.mp member with rfl | earlier
              · exact ⟨y, first⟩
              · exact good b earlier

theorem map_m_error_iff (f : α → Except ε β) (xs : List α) (e : ε) :
    xs.mapM f = .error e ↔
      ∃ before x after, xs = before ++ x :: after ∧ (∀ b ∈ before, ∃ y, f b = .ok y) ∧ f x = .error e := by
  constructor
  · exact map_m_error f xs e
  · rintro ⟨before, x, after, rfl, good, failing⟩
    induction before with
    | nil =>
        rw [List.nil_append, List.mapM_cons, bind_error_iff]
        exact .inl failing
    | cons b rest ih =>
        obtain ⟨⟨y, first⟩, others⟩ := List.forall_mem_cons.mp good
        rw [List.cons_append, List.mapM_cons, first, bind_error_iff]
        exact .inr ⟨y, rfl, (bind_error_iff _ _ e).mpr (.inl (ih others))⟩

end ScreenDispatch
