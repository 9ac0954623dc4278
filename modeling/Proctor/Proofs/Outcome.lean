import Mathlib.Data.List.Forall2

/-!
# Outcomes of steps that can fail

What is known of a sequence of steps, from its outcome: a value comes out of it only if every
step has given one, and an error is that of one of the steps.
-/

namespace Except

variable {ε α β : Type}

theorem ok_bind (a : α) (f : α → Except ε β) : (Except.ok a >>= f) = f a := rfl

theorem error_bind (e : ε) (f : α → Except ε β) : (Except.error e >>= f) = .error e := rfl

theorem map_mapError {ε' : Type} (x : Except ε α) (f : α → β) (g : ε → ε') :
    (x.mapError g).map f = (x.map f).mapError g := by
  cases x <;> rfl

theorem bind_eq_ok {x : Except ε α} {f : α → Except ε β} {b : β} :
    x >>= f = .ok b ↔ ∃ a, x = .ok a ∧ f a = .ok b := by
  cases x with
  | error e => simp [bind, Except.bind]
  | ok a => simp [bind, Except.bind]

theorem bind_eq_error {x : Except ε α} {f : α → Except ε β} {e : ε} :
    x >>= f = .error e ↔ x = .error e ∨ ∃ a, x = .ok a ∧ f a = .error e := by
  cases x with
  | error e => simp [bind, Except.bind]
  | ok a => simp [bind, Except.bind]

/-- A step that gives a value always does not fail. -/
theorem bind_pure_eq_error {x : Except ε α} {f : α → β} {e : ε} :
    (x >>= fun a => pure (f a)) = .error e ↔ x = .error e := by
  cases x with
  | error e => simp [bind, Except.bind]
  | ok a => simp [bind, Except.bind, pure, Except.pure]

theorem map_eq_ok {x : Except ε α} {f : α → β} {b : β} :
    x.map f = .ok b ↔ ∃ a, x = .ok a ∧ f a = b := by
  cases x <;> simp [Except.map]

theorem map_eq_error {x : Except ε α} {f : α → β} {e : ε} :
    x.map f = .error e ↔ x = .error e := by
  cases x <;> simp [Except.map]

theorem toOption_eq_some {x : Except ε α} {a : α} : x.toOption = some a ↔ x = .ok a := by
  cases x <;> simp [Except.toOption]

theorem mapError_eq_ok {ε' : Type} {x : Except ε α} {f : ε → ε'} {a : α} :
    x.mapError f = .ok a ↔ x = .ok a := by
  cases x <;> simp [Except.mapError]

theorem mapError_eq_error {ε' : Type} {x : Except ε α} {f : ε → ε'} {e' : ε'} :
    x.mapError f = .error e' ↔ ∃ e, x = .error e ∧ f e = e' := by
  cases x <;> simp [Except.mapError]

theorem mapM_eq_ok {f : α → Except ε β} {xs : List α} {ys : List β} :
    xs.mapM f = .ok ys ↔ List.Forall₂ (fun x y => f x = .ok y) xs ys := by
  induction xs generalizing ys with
  | nil =>
    rw [List.mapM_nil, List.forall₂_nil_left_iff]
    exact ⟨fun same => (Except.ok.inj same).symm, fun same => same ▸ rfl⟩
  | cons x xs ih =>
    rw [List.mapM_cons, bind_eq_ok]
    constructor
    · rintro ⟨y, here, rest⟩
      obtain ⟨ys', later, same⟩ := bind_eq_ok.mp rest
      obtain rfl := Except.ok.inj same
      exact .cons here (ih.mp later)
    · rintro (_ | ⟨here, later⟩)
      exact ⟨_, here, bind_eq_ok.mpr ⟨_, ih.mpr later, rfl⟩⟩

theorem exists_of_mapM_eq_ok {f : α → Except ε β} {xs : List α} {ys : List β} {x : α}
    (done : xs.mapM f = .ok ys) (mem : x ∈ xs) : ∃ y, f x = .ok y := by
  have each := mapM_eq_ok.mp done
  clear done
  induction each with
  | nil => cases mem
  | cons here _ ih =>
    obtain rfl | later := List.mem_cons.mp mem
    · exact ⟨_, here⟩
    · exact ih later

theorem exists_of_mapM_eq_error {f : α → Except ε β} {xs : List α} {e : ε}
    (failed : xs.mapM f = .error e) : ∃ x ∈ xs, f x = .error e := by
  induction xs with
  | nil => cases failed
  | cons x xs ih =>
    rw [List.mapM_cons, bind_eq_error] at failed
    obtain here | ⟨y, -, rest⟩ := failed
    · exact ⟨x, List.mem_cons_self, here⟩
    obtain later | ⟨ys, -, same⟩ := bind_eq_error.mp rest
    · obtain ⟨z, mem, there⟩ := ih later
      exact ⟨z, List.mem_cons_of_mem x mem, there⟩
    · cases same

/-- The values that come out are those of the steps. -/
theorem mem_iff_of_mapM_eq_ok {f : α → Except ε β} {xs : List α} {ys : List β} {y : β}
    (done : xs.mapM f = .ok ys) : y ∈ ys ↔ ∃ x ∈ xs, f x = .ok y := by
  have each := mapM_eq_ok.mp done
  clear done
  induction each with
  | nil => simp
  | cons here _ ih => simp [ih, here, eq_comm]

/-- Steps that all give values give the list of them. -/
theorem mapM_of_ok {f : α → Except ε β} {g : α → β} {xs : List α}
    (each : ∀ x ∈ xs, f x = .ok (g x)) : xs.mapM f = .ok (xs.map g) := by
  rw [mapM_eq_ok, List.forall₂_map_right_iff, List.forall₂_same]
  exact each

/-- A choice that never fails is one of those that cannot fail. -/
theorem filterM_of_ok {f : α → Except ε Bool} {g : α → Bool} {xs : List α}
    (each : ∀ x ∈ xs, f x = .ok (g x)) : xs.filterM f = .ok (xs.filter g) := by
  have step (chosen : List α) :
      xs.filterAuxM f chosen = .ok ((xs.filter g).reverse ++ chosen) := by
    induction xs generalizing chosen with
    | nil => rfl
    | cons x xs ih =>
      obtain ⟨here, later⟩ := List.forall_mem_cons.mp each
      rw [List.filterAuxM, here, ok_bind, ih later]
      cases chosen? : g x <;> simp [chosen?]
  rw [List.filterM, step, ok_bind, List.append_nil, List.reverse_reverse]
  rfl

/-- If there is one error only, a sequence of steps fails exactly if one of them does. -/
theorem mapM_eq_error_iff {f : α → Except ε β} {xs : List α} {e only : ε} {Fails : α → Prop}
    (each : ∀ x e, f x = .error e ↔ e = only ∧ Fails x) :
    xs.mapM f = .error e ↔ e = only ∧ ∃ x ∈ xs, Fails x := by
  constructor
  · intro failed
    obtain ⟨x, mem, here⟩ := exists_of_mapM_eq_error failed
    obtain ⟨same, fails⟩ := (each x e).mp here
    exact ⟨same, x, mem, fails⟩
  · rintro ⟨rfl, x, mem, fails⟩
    cases outcome : xs.mapM f with
    | ok ys =>
      obtain ⟨y, read⟩ := exists_of_mapM_eq_ok outcome mem
      cases read.symm.trans ((each x e).mpr ⟨rfl, fails⟩)
    | error e' =>
      obtain ⟨z, -, there⟩ := exists_of_mapM_eq_error outcome
      rw [((each z e').mp there).1]

/-! ## Errors of a kind -/

/-- Whatever error comes out, it is one of the kind. -/
def FailsOnly (P : ε → Prop) (x : Except ε α) : Prop := ∀ e, x = .error e → P e

variable {P Q : ε → Prop} {x : Except ε α}

theorem failsOnly_ok (a : α) : (Except.ok a : Except ε α).FailsOnly P := by
  intro e failed
  cases failed

theorem failsOnly_error {e : ε} (kind : P e) : (Except.error e : Except ε α).FailsOnly P := by
  intro e' failed
  exact Except.error.inj failed ▸ kind

theorem FailsOnly.mono (fails : x.FailsOnly P) (weaker : ∀ e, P e → Q e) : x.FailsOnly Q := by
  intro e failed
  exact weaker e (fails e failed)

theorem FailsOnly.or_inl (fails : x.FailsOnly P) : x.FailsOnly fun e => P e ∨ Q e :=
  fails.mono fun _ => .inl

theorem FailsOnly.bind {f : α → Except ε β} (fails : x.FailsOnly P)
    (rest : ∀ a, x = .ok a → (f a).FailsOnly P) : (x >>= f).FailsOnly P := by
  intro e failed
  obtain here | ⟨a, got, later⟩ := bind_eq_error.mp failed
  · exact fails e here
  · exact rest a got e later

theorem FailsOnly.map {f : α → β} (fails : x.FailsOnly P) : (x.map f).FailsOnly P := by
  cases x with
  | error e => exact failsOnly_error (fails e rfl)
  | ok a => exact failsOnly_ok (f a)

theorem FailsOnly.mapError {ε' : Type} {R : ε' → Prop} {f : ε → ε'}
    (fails : x.FailsOnly fun e => R (f e)) : (x.mapError f).FailsOnly R := by
  intro e' failed
  obtain ⟨e, here, rfl⟩ := mapError_eq_error.mp failed
  exact fails e here

theorem failsOnly_mapM {f : α → Except ε β} {xs : List α}
    (each : ∀ a ∈ xs, (f a).FailsOnly P) : (xs.mapM f).FailsOnly P := by
  intro e failed
  obtain ⟨a, mem, here⟩ := exists_of_mapM_eq_error failed
  exact each a mem e here

end Except
