/-
  Foundation/Interaction.lean --- programs that call an environment.

  A program returns, raises, or makes a call and goes on with the answer.  The
  environment is not described: in a run every call is answered by anything its
  type allows, so whatever else happens between two calls is among the runs.  A
  program can also be evaluated by an oracle, which has one answer for each call.

  Two things follow from the syntax.  A run that makes no call twice is a run
  under some oracle (`Runs.exists_oracle`).  And what is shown of every call
  against the history before it holds along every run (`Guarded.run`).
-/
import Mathlib.Data.List.Induction
import Mathlib.Data.List.Nodup

set_option autoImplicit false

namespace TruenasPydmi.Foundation

section

variable {C : Type} {A : C → Type} {ε δ α β : Type}

/-- Calls `c` are answered in `A c`; the program returns in `α` or raises in `ε`. -/
inductive Program (C : Type) (A : C → Type) (ε α : Type) : Type where
  | return_ (a : α)
  | raise (e : ε)
  | call (c : C) (next : A c → Program C A ε α)

/-- A call and its answer. -/
abbrev Answered (C : Type) (A : C → Type) : Type := (c : C) × A c

namespace Program

/-- Goes on with what is returned, or with what is raised. -/
def andThen (p : Program C A ε α) (onReturn : α → Program C A δ β)
    (onRaise : ε → Program C A δ β) : Program C A δ β :=
  match p with
  | .return_ a => onReturn a
  | .raise e => onRaise e
  | .call c next => .call c fun x => (next x).andThen onReturn onRaise

instance : Monad (Program C A ε) where
  pure := .return_
  bind p f := p.andThen f .raise

/-- `try: p finally: q`.  What `q` raises takes the place of the outcome of `p`. -/
def finally_ (p : Program C A ε α) (q : Program C A ε Unit) : Program C A ε α :=
  p.andThen (fun a => q >>= fun _ => pure a) fun e => q >>= fun _ => .raise e

/-- What is raised is translated. -/
def mapError (p : Program C A ε α) (f : ε → δ) : Program C A δ α :=
  p.andThen .return_ fun e => .raise (f e)

/-- Without a call. -/
def ofExcept : Except ε α → Program C A ε α
  | .ok a => .return_ a
  | .error e => .raise e

/-- The outcome under one oracle. -/
def eval (ω : (c : C) → A c) : Program C A ε α → Except ε α
  | .return_ a => .ok a
  | .raise e => .error e
  | .call c next => (next (ω c)).eval ω

end Program

/-- `p` makes the calls of `t`, is answered as `t` says, and ends in `r`. -/
inductive Runs : Program C A ε α → List (Answered C A) → Except ε α → Prop
  | return_ (a : α) : Runs (.return_ a) [] (.ok a)
  | raise (e : ε) : Runs (.raise e) [] (.error e)
  | call {c : C} {next : A c → Program C A ε α} {t : List (Answered C A)} {r : Except ε α}
      (x : A c) (h : Runs (next x) t r) : Runs (.call c next) (⟨c, x⟩ :: t) r

/-- The oracle gives the answers of `t`. -/
def AgreesWith (ω : (c : C) → A c) (t : List (Answered C A)) : Prop := ∀ x ∈ t, ω x.1 = x.2

/-- A run of two parts is a run of the first, and then one of what follows its end. -/
theorem Runs.exists_of_andThen {p : Program C A ε α} {f : α → Program C A δ β}
    {g : ε → Program C A δ β} {t : List (Answered C A)} {r : Except δ β}
    (h : Runs (p.andThen f g) t r) :
    ∃ t₁ t₂ r₁, t = t₁ ++ t₂ ∧ Runs p t₁ r₁ ∧
      match r₁ with
      | .ok a => Runs (f a) t₂ r
      | .error e => Runs (g e) t₂ r := by
  induction p generalizing t with
  | return_ a => exact ⟨[], t, .ok a, rfl, .return_ a, h⟩
  | raise e => exact ⟨[], t, .error e, rfl, .raise e, h⟩
  | call c next ih =>
      cases h with
      | call x hrest =>
          obtain ⟨t₁, t₂, r₁, rfl, hfirst, hthen⟩ := ih x hrest
          exact ⟨⟨c, x⟩ :: t₁, t₂, r₁, rfl, .call x hfirst, hthen⟩

/-! ## Oracles -/

namespace Program

variable (ω : (c : C) → A c)

@[simp] theorem eval_pure (a : α) : (pure a : Program C A ε α).eval ω = .ok a := rfl

@[simp] theorem eval_raise (e : ε) : (raise e : Program C A ε α).eval ω = .error e := rfl

@[simp] theorem eval_call (c : C) (next : A c → Program C A ε α) :
    (call c next).eval ω = (next (ω c)).eval ω := rfl

theorem eval_andThen (p : Program C A ε α) (f : α → Program C A δ β) (h : ε → Program C A δ β) :
    (p.andThen f h).eval ω =
      match p.eval ω with
      | .ok a => (f a).eval ω
      | .error e => (h e).eval ω := by
  induction p with
  | return_ a => rfl
  | raise e => rfl
  | call c next ih => exact ih (ω c)

@[simp] theorem eval_bind (p : Program C A ε α) (f : α → Program C A ε β) :
    (p >>= f).eval ω = p.eval ω >>= fun a => (f a).eval ω := by
  refine (eval_andThen ω p f .raise).trans ?_
  cases p.eval ω <;> rfl

theorem eval_finally (p : Program C A ε α) (q : Program C A ε Unit) :
    (p.finally_ q).eval ω = q.eval ω >>= fun _ => p.eval ω := by
  refine (eval_andThen ω p _ _).trans ?_
  cases p.eval ω <;> simp

@[simp] theorem eval_mapError (p : Program C A ε α) (f : ε → δ) :
    (p.mapError f).eval ω = (p.eval ω).mapError f := by
  refine (eval_andThen ω p _ _).trans ?_
  cases p.eval ω <;> rfl

@[simp] theorem eval_ofExcept (r : Except ε α) :
    (ofExcept r : Program C A ε α).eval ω = r := by
  cases r <;> rfl

/-- An oracle answers one of the runs. -/
theorem exists_runs_eval (p : Program C A ε α) :
    ∃ t, Runs p t (p.eval ω) ∧ AgreesWith ω t := by
  induction p with
  | return_ a => exact ⟨[], .return_ a, nofun⟩
  | raise e => exact ⟨[], .raise e, nofun⟩
  | call c next ih =>
      obtain ⟨t, hruns, hagrees⟩ := ih (ω c)
      exact ⟨⟨c, ω c⟩ :: t, .call _ hruns, List.forall_mem_cons.mpr ⟨rfl, hagrees⟩⟩

end Program

/-- Under an oracle that gives the answers of a run, the program ends as in the run. -/
theorem Runs.eval_eq {p : Program C A ε α} {t : List (Answered C A)} {r : Except ε α}
    (h : Runs p t r) {ω : (c : C) → A c} (hω : AgreesWith ω t) : p.eval ω = r := by
  induction h with
  | return_ a => rfl
  | raise e => rfl
  | call x h ih =>
      obtain ⟨hfirst, hrest⟩ := List.forall_mem_cons.mp hω
      rw [Program.eval_call, show ω _ = x from hfirst]
      exact ih hrest

/-- Answers to different calls are the answers of one oracle. -/
theorem exists_agreesWith [DecidableEq C] (ω : (c : C) → A c) {t : List (Answered C A)}
    (h : (t.map Sigma.fst).Nodup) : ∃ ω', AgreesWith ω' t := by
  induction t with
  | nil => exact ⟨ω, nofun⟩
  | cons x t ih =>
      rw [List.map_cons, List.nodup_cons] at h
      obtain ⟨ω', hω'⟩ := ih h.2
      refine ⟨Function.update ω' x.1 x.2, List.forall_mem_cons.mpr ⟨?_, fun y hy => ?_⟩⟩
      · exact Function.update_self _ _ _
      · have hne : y.1 ≠ x.1 := fun heq => h.1 (heq ▸ List.mem_map_of_mem hy)
        rw [Function.update_of_ne hne]
        exact hω' y hy

/-- A run that makes no call twice is a run under an oracle, though the
environment of the run may have changed from call to call. -/
theorem Runs.exists_oracle [DecidableEq C] (ω : (c : C) → A c) {p : Program C A ε α}
    {t : List (Answered C A)} {r : Except ε α} (h : Runs p t r)
    (hnodup : (t.map Sigma.fst).Nodup) : ∃ ω', AgreesWith ω' t ∧ p.eval ω' = r := by
  obtain ⟨ω', hω'⟩ := exists_agreesWith ω hnodup
  exact ⟨ω', hω', h.eval_eq hω'⟩

/-! ## Guards -/

/-- Whatever the answers, every call of `p` is one that `G` allows after the calls
before it, `u` and those of `p`; and where `p` ends, `Q` holds of all of them. -/
def Guarded (G : List (Answered C A) → C → Prop) (Q : List (Answered C A) → Except ε α → Prop)
    (u : List (Answered C A)) : Program C A ε α → Prop
  | .return_ a => Q u (.ok a)
  | .raise e => Q u (.error e)
  | .call c next => G u c ∧ ∀ x, Guarded G Q (u ++ [⟨c, x⟩]) (next x)

section

variable {G : List (Answered C A) → C → Prop} {u : List (Answered C A)}

theorem Guarded.imp {Q Q' : List (Answered C A) → Except ε α → Prop} {p : Program C A ε α}
    (h : Guarded G Q u p) (hQ : ∀ v r, Q v r → Q' v r) : Guarded G Q' u p := by
  induction p generalizing u with
  | return_ a => exact hQ _ _ h
  | raise e => exact hQ _ _ h
  | call c next ih => exact ⟨h.1, fun x => ih x (h.2 x)⟩

/-- The first part is guarded, and what follows it from each of its ends. -/
theorem Guarded.andThen {Q : List (Answered C A) → Except δ β → Prop} {p : Program C A ε α}
    {f : α → Program C A δ β} {g : ε → Program C A δ β}
    (h : Guarded G (fun v r => match r with
      | .ok a => Guarded G Q v (f a)
      | .error e => Guarded G Q v (g e)) u p) : Guarded G Q u (p.andThen f g) := by
  induction p generalizing u with
  | return_ a => exact h
  | raise e => exact h
  | call c next ih => exact ⟨h.1, fun x => ih x (h.2 x)⟩

theorem Guarded.bind {Q : List (Answered C A) → Except ε β → Prop} {p : Program C A ε α}
    {f : α → Program C A ε β}
    (h : Guarded G (fun v r => match r with
      | .ok a => Guarded G Q v (f a)
      | .error e => Q v (.error e)) u p) : Guarded G Q u (p >>= f) := by
  refine Guarded.andThen (h.imp fun v r hr => ?_)
  cases r with
  | ok a => exact hr
  | error e => exact hr

theorem Guarded.mapError {Q : List (Answered C A) → Except δ α → Prop} {p : Program C A ε α}
    {f : ε → δ} (h : Guarded G (fun v r => Q v (r.mapError f)) u p) :
    Guarded G Q u (p.mapError f) := by
  refine Guarded.andThen (h.imp fun v r hr => ?_)
  cases r with
  | ok a => exact hr
  | error e => exact hr

theorem Guarded.ofExcept {Q : List (Answered C A) → Except ε α → Prop} {r : Except ε α}
    (h : Q u r) : Guarded G Q u (.ofExcept r) := by
  cases r with
  | ok a => exact h
  | error e => exact h

/-- Along every run each call is allowed by the history before it. -/
theorem Guarded.run {Q : List (Answered C A) → Except ε α → Prop} {p : Program C A ε α}
    {t : List (Answered C A)} {r : Except ε α} (h : Guarded G Q u p) (hruns : Runs p t r) :
    (∀ v c x w, t = v ++ ⟨c, x⟩ :: w → G (u ++ v) c) ∧ Q (u ++ t) r := by
  induction hruns generalizing u with
  | return_ a => exact ⟨by simp, (List.append_nil u).symm ▸ h⟩
  | raise e => exact ⟨by simp, (List.append_nil u).symm ▸ h⟩
  | @call c next t r x hrest ih =>
      obtain ⟨hguard, hend⟩ := ih (h.2 x)
      refine ⟨fun v c' x' w heq => ?_, by simpa using hend⟩
      cases v with
      | nil =>
          obtain ⟨heq, -⟩ := List.cons.inj heq
          cases heq
          simpa using h.1
      | cons y v =>
          obtain ⟨heq, htail⟩ := List.cons.inj heq
          cases heq
          simpa using hguard v c' x' w htail

end

/-- Where no call is in the history before it, no call is made twice. -/
theorem nodup_of_fresh {t : List (Answered C A)}
    (h : ∀ v c x w, t = v ++ ⟨c, x⟩ :: w → c ∉ v.map Sigma.fst) : (t.map Sigma.fst).Nodup := by
  induction t using List.reverseRecOn with
  | nil => exact List.nodup_nil
  | append_singleton t x ih =>
      rw [List.map_append, List.map_singleton, List.nodup_append_comm, List.singleton_append,
        List.nodup_cons]
      refine ⟨h t x.1 x.2 [] rfl, ih fun v c y w heq => h v c y (w ++ [x]) ?_⟩
      rw [heq, List.append_assoc, List.cons_append]

end

end TruenasPydmi.Foundation
