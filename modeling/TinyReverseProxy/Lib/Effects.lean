import Mathlib.Logic.Basic

/-!
# Computations that fail halfway

A computation in `EStateM ε σ` that fails leaves the state it had reached: what it did before the
error stays done. So a specification says two things, what holds when the computation returns and
what holds when it does not, and an invariant has to hold in both.

`Ends P m Q E` is that specification. `Keeps I m` is the case of an invariant `I`, and a
computation that cannot fail has `False` for `E`.
-/

namespace TinyReverseProxy.Lib

open List

section Effects

variable {ε σ α β : Type}

/-- The state a computation leaves behind, whether it returns or fails. -/
def leaves (m : EStateM ε σ α) (s : σ) : σ :=
  match m s with
  | .ok _ s' => s'
  | .error _ s' => s'

def succeeds (m : EStateM ε σ α) (s : σ) : Bool :=
  match m s with
  | .ok _ _ => true
  | .error _ _ => false

/-- The outcome of a computation as a value. -/
def attempt (m : EStateM ε σ α) : EStateM ε σ (Except ε α) := fun s =>
  match m s with
  | .ok a s' => .ok (.ok a) s'
  | .error e s' => .ok (.error e) s'

/-- A result without effects. -/
def lift : Except ε α → EStateM ε σ α
  | .ok a => pure a
  | .error e => throw e

/-- Started where `P` holds, the computation returns to a state where `Q` holds of the result, or
fails in a state where `E` holds. -/
def Ends (P : σ → Prop) (m : EStateM ε σ α) (Q : α → σ → Prop) (E : σ → Prop) : Prop :=
  ∀ s, P s →
    match m s with
    | .ok a s' => Q a s'
    | .error _ s' => E s'

/-- Started where `P` holds, the computation ends in a state where `T` holds, also when it fails. -/
abbrev EndsIn (P : σ → Prop) (m : EStateM ε σ α) (T : σ → Prop) : Prop := Ends P m (fun _ => T) T

/-- The computation keeps the invariant, also when it fails. -/
def Keeps (I : σ → Prop) (m : EStateM ε σ α) : Prop := Ends I m (fun _ => I) I

variable {P P' I E E' : σ → Prop} {m : EStateM ε σ α} {Q Q' : α → σ → Prop}

/-! ## Rules -/

theorem Ends.imp (h : Ends P m Q E) (hP : ∀ s, P' s → P s) (hQ : ∀ a s, Q a s → Q' a s)
    (hE : ∀ s, E s → E' s) : Ends P' m Q' E' := by
  intro s hs
  have hend := h s (hP s hs)
  split at hend <;> simp_all

/-! A specification with one of its parts changed. -/

theorem Ends.pre (h : Ends P m Q E) (hP : ∀ s, P' s → P s) : Ends P' m Q E :=
  h.imp hP (fun _ _ hs => hs) fun _ hs => hs

theorem Ends.post (h : Ends P m Q E) (hQ : ∀ a s, Q a s → Q' a s) : Ends P m Q' E :=
  h.imp (fun _ hs => hs) hQ fun _ hs => hs

theorem Ends.fail (h : Ends P m Q E) (hE : ∀ s, E s → E' s) : Ends P m Q E' :=
  h.imp (fun _ hs => hs) (fun _ _ hs => hs) hE

/-- A fact that does not depend on the state. -/
theorem Ends.of_fact {F : Prop} (h : F → Ends P m Q E) : Ends (fun s => F ∧ P s) m Q E :=
  fun s hs => h hs.1 s hs.2

/-- A computation that cannot fail. -/
theorem Ends.total (h : Ends P m Q fun _ => False) : Ends P m Q E := h.fail fun _ hs => hs.elim

variable {s s' : σ}

theorem Ends.ok {a : α} (h : Ends P m Q E) (hs : P s) (hrun : m s = .ok a s') : Q a s' := by
  have hend := h s hs
  rwa [hrun] at hend

theorem Ends.error {e : ε} (h : Ends P m Q E) (hs : P s) (hrun : m s = .error e s') : E s' := by
  have hend := h s hs
  rwa [hrun] at hend

/-- If it cannot fail, there is a result. -/
theorem Ends.returns (h : Ends P m Q fun _ => False) (hs : P s) :
    ∃ a s', m s = .ok a s' ∧ Q a s' := by
  cases hrun : m s with
  | ok a s' => exact ⟨a, s', rfl, h.ok hs hrun⟩
  | error e s' => exact (h.error hs hrun).elim

theorem Ends.and {Q₂ : α → σ → Prop} {E₂ : σ → Prop} (h : Ends P m Q E) (h₂ : Ends P m Q₂ E₂) :
    Ends P m (fun a s => Q a s ∧ Q₂ a s) (fun s => E s ∧ E₂ s) := by
  intro s hs
  have hend := h s hs
  have hend₂ := h₂ s hs
  split at hend <;> simp_all

theorem Ends.pure {a : α} (h : ∀ s, P s → Q a s) : Ends P (pure a : EStateM ε σ α) Q E :=
  h

theorem Ends.throw {e : ε} (h : ∀ s, P s → E s) : Ends P (throw e : EStateM ε σ α) Q E :=
  h

/-! Steps from a state that is known. -/

theorem Ends.get_at : Ends (· = s) (get : EStateM ε σ σ) (fun a s' => a = s ∧ s' = s) E :=
  fun _ h => ⟨h, h⟩

theorem Ends.modify_at {f : σ → σ} :
    Ends (· = s) (modify f : EStateM ε σ PUnit) (fun _ s' => s' = f s) E :=
  fun _ h => congrArg f h

theorem Ends.lift_at (r : Except ε α) :
    Ends (· = s) (lift r) (fun a s' => r = .ok a ∧ s' = s) fun s' => (∃ e, r = .error e) ∧ s' = s :=
  fun _ h => by
    cases r with
    | ok a => exact ⟨rfl, h⟩
    | error e => exact ⟨⟨e, rfl⟩, h⟩

variable {r : Except ε α}

theorem Ends.lift_ok {a : α} (h : r = .ok a) : Ends P (lift r) (fun _ => P) E := by
  subst h
  exact fun _ hs => hs

theorem Ends.modify {f : σ → σ} {Q : PUnit → σ → Prop} (h : ∀ s, P s → Q ⟨⟩ (f s)) :
    Ends P (modify f : EStateM ε σ PUnit) Q E :=
  h

variable {f : α → EStateM ε σ β}

theorem Ends.bind {R : β → σ → Prop} (hm : Ends P m Q E) (hf : ∀ a, Ends (Q a) (f a) R E) :
    Ends P (m >>= f) R E := by
  intro s hs
  show match (match m s with
      | .ok a s' => f a s'
      | .error e s' => .error e s' : EStateM.Result ε σ β) with
    | .ok b s' => R b s'
    | .error _ s' => E s'
  cases hrun : m s with
  | ok a s' => exact hf a s' (hm.ok hs hrun)
  | error e s' => exact hm.error hs hrun

theorem Ends.attempt (h : Ends P m Q E) :
    Ends P (attempt m)
      (fun r s => match r with
        | .ok a => Q a s
        | .error _ => E s) E' := by
  intro s hs
  have hend := h s hs
  unfold Lib.attempt
  split at hend <;> exact hend

theorem Ends.lift (hok : ∀ a, r = .ok a → ∀ s, P s → Q a s)
    (herror : ∀ e, r = .error e → ∀ s, P s → E s) :
    Ends P (lift r) Q E := by
  cases r with
  | ok a => exact hok a rfl
  | error e => exact herror e rfl

/-- What a specification says about the state left behind. -/
theorem Ends.leaves {T : σ → Prop} (h : EndsIn P m T) (hs : P s) : T (leaves m s) := by
  have hend := h s hs
  unfold Lib.leaves
  split at hend <;> simp_all

theorem Keeps.bind (hm : Keeps I m) (hf : ∀ a, Keeps I (f a)) : Keeps I (m >>= f) :=
  Ends.bind hm hf

theorem Keeps.pure (a : α) : Keeps I (pure a : EStateM ε σ α) := fun _ h => h

theorem Keeps.throw (e : ε) : Keeps I (throw e : EStateM ε σ α) := fun _ h => h

/-- What does not depend on the state stays as it is. -/
theorem Keeps.of_fact (F : Prop) : Keeps (fun _ => F) m := by
  intro s hs
  split <;> exact hs

theorem Keeps.lift (r : Except ε α) : Keeps I (lift r) :=
  Ends.lift (fun _ _ _ h => h) fun _ _ _ h => h

theorem Keeps.attempt (h : Keeps I m) : Keeps I (attempt m) :=
  (Ends.attempt h).imp (fun _ hs => hs)
    (fun r _ hr => match r, hr with
      | .ok _, hr => hr
      | .error _, hr => hr)
    fun _ hs => hs

/-! ## Outcomes -/

section Outcomes

variable {f : α → EStateM ε σ β} {a : α} {e : ε} {s s' s'' : σ}

theorem bind_of_ok (h : m s = .ok a s') : (m >>= f) s = f a s' := by
  show EStateM.bind m f s = _
  rw [EStateM.bind, h]

theorem bind_of_error (h : m s = .error e s') : (m >>= f) s = .error e s' := by
  show EStateM.bind m f s = _
  rw [EStateM.bind, h]

/-- A bind that fails did so in one of its halves. -/
theorem bind_eq_error (h : (m >>= f) s = .error e s'') :
    m s = .error e s'' ∨ ∃ a s', m s = .ok a s' ∧ f a s' = .error e s'' := by
  cases hr : m s with
  | ok a s' =>
    rw [bind_of_ok hr] at h
    exact .inr ⟨a, s', rfl, h⟩
  | error e' s' =>
    rw [bind_of_error hr] at h
    cases h
    exact .inl rfl

theorem attempt_of_ok (h : m s = .ok a s') : attempt m s = .ok (.ok a) s' := by
  rw [attempt, h]

theorem attempt_of_error (h : m s = .error e s') : attempt m s = .ok (.error e) s' := by
  rw [attempt, h]

theorem ok_of_succeeds (h : succeeds m s = true) : ∃ a, m s = .ok a (leaves m s) := by
  unfold succeeds at h
  unfold leaves
  cases hr : m s with
  | ok a s' => exact ⟨a, rfl⟩
  | error e s' =>
    rw [hr] at h
    cases h

theorem error_of_not_succeeds (h : succeeds m s = false) : ∃ e, m s = .error e (leaves m s) := by
  unfold succeeds at h
  unfold leaves
  cases hr : m s with
  | ok a s' =>
    rw [hr] at h
    cases h
  | error e s' => exact ⟨e, rfl⟩

variable {r : Except ε α}

/-- A result without effects leaves the state alone. -/
theorem lift_eq_error (h : lift r s = .error e s') : s' = s := by
  cases r with
  | ok a => cases h
  | error e => cases h; rfl

theorem lift_eq_ok (h : lift r s = .ok a s') : r = .ok a ∧ s' = s := by
  cases r with
  | ok a => cases h; exact ⟨rfl, rfl⟩
  | error e => cases h

end Outcomes

/-! ## Loops -/

section Loops

variable {f : α → EStateM ε σ PUnit} {as : List α}

/-- A loop keeps what each round keeps. -/
theorem Ends.forM (h : ∀ a ∈ as, Ends I (f a) (fun _ => I) E) :
    Ends I (as.forM f) (fun _ => I) E := by
  induction as with
  | nil => exact .pure fun _ hs => hs
  | cons a as ih =>
    have hrest := ih fun b hb => h b (mem_cons_of_mem _ hb)
    exact .bind (h a mem_cons_self) fun _ => hrest

theorem Keeps.forM (h : ∀ a ∈ as, Keeps I (f a)) : Keeps I (as.forM f) := Ends.forM h

/-- After a loop that does not fail, every round has reached its goal, if later rounds leave the
goals of earlier ones alone. -/
theorem Ends.forM_goals {G : α → σ → Prop}
    (hround : ∀ a ∈ as, Ends I (f a) (fun _ s => I s ∧ G a s) E)
    (hlater : ∀ a ∈ as, ∀ b, Ends (fun s => I s ∧ G b s) (f a) (fun _ s => G b s) E) :
    Ends I (as.forM f) (fun _ s => I s ∧ ∀ a ∈ as, G a s) E := by
  induction as with
  | nil => exact .pure fun _ hs => ⟨hs, fun _ ha => by cases ha⟩
  | cons a as ih =>
    have hlater' := fun b hb => hlater b (mem_cons_of_mem _ hb)
    have hround' := fun b hb => hround b (mem_cons_of_mem _ hb)
    -- the goal of the first round survives the rest of the loop
    have hkept : Ends (fun s => I s ∧ G a s) (as.forM f) (fun _ s => I s ∧ G a s) E := by
      refine .forM fun b hb => ?_
      have hgoal := hlater' b hb a
      have hinv := ((hround' b hb).pre fun s (hs : I s ∧ G a s) => hs.1).post fun _ _ hs => hs.1
      exact (hinv.and hgoal).fail fun _ hs => hs.1
    have hrest := (ih hround' hlater').pre fun s (hs : I s ∧ G a s) => hs.1
    refine .bind (hround a mem_cons_self) fun _ => ?_
    refine ((hkept.and hrest).fail fun _ hs => hs.1).post ?_
    rintro _ s ⟨⟨hI, ha⟩, _, has⟩
    exact ⟨hI, forall_mem_cons.mpr ⟨ha, has⟩⟩

/-- A loop in which every round adds to what has been done. -/
theorem Ends.forM_progress {J : List α → σ → Prop}
    (h : ∀ done a rest, done ++ a :: rest = as →
      Ends (J done) (f a) (fun _ => J (done ++ [a])) E) :
    Ends (J []) (as.forM f) (fun _ => J as) E := by
  have hfrom : ∀ rest done, done ++ rest = as → Ends (J done) (rest.forM f) (fun _ => J as) E := by
    intro rest
    induction rest with
    | nil =>
      intro done hdone
      rw [append_nil] at hdone
      subst hdone
      exact .pure fun _ hs => hs
    | cons a rest ih =>
      intro done hdone
      refine .bind (h done a rest hdone) fun _ => ih (done ++ [a]) ?_
      rw [append_assoc]
      exact hdone
  exact hfrom as [] rfl

end Loops

end Effects

end TinyReverseProxy.Lib
