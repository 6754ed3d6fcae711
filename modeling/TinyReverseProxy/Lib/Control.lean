import Mathlib.Data.List.Forall2
import Mathlib.Logic.Relation

/-!
# Fallible steps and runs

Two rules every layer uses: how to take apart a computation in `Except`, and how a fact about one
step becomes a fact about a whole run. A run is the reflexive transitive closure of a step
relation.
-/

namespace TinyReverseProxy.Lib

open List

variable {ε α : Type}

variable {x : Except ε α}

/-- A bind that succeeds did so in both halves. -/
theorem bind_eq_ok {β : Type} {f : α → Except ε β} {b : β} (h : (x >>= f) = .ok b) :
    ∃ a, x = .ok a ∧ f a = .ok b := by
  cases x with
  | error e => cases h
  | ok a => exact ⟨a, rfl, h⟩

theorem map_eq_ok {β : Type} {f : α → β} {b : β} (h : x.map f = .ok b) :
    ∃ a, x = .ok a ∧ f a = b := by
  cases x with
  | error e => cases h
  | ok a => exact ⟨a, rfl, Except.ok.inj h⟩

variable {a : α}

theorem eq_ok_of_isOk (a : α) (h : x.isOk = true) : x = .ok (x.toOption.getD a) := by
  cases x with
  | error e => cases h
  | ok b => rfl

theorem ok_of_map_some (h : x.map some = .ok (some a)) : x = .ok a := by
  obtain ⟨_, hx, heq⟩ := map_eq_ok h
  cases heq
  exact hx

theorem mapError_eq_ok {ε' : Type} {f : ε → ε'} (h : x.mapError f = .ok a) : x = .ok a := by
  cases x with
  | error e => cases h
  | ok b => exact congrArg Except.ok (Except.ok.inj h)

/-- Fail with `e` unless the condition holds. -/
def require {ε : Type} (c : Prop) [Decidable c] (e : ε) : Except ε Unit :=
  if c then .ok () else .error e

/-- The value that is there, else the error `e`. -/
def need {ε α : Type} (o : Option α) (e : ε) : Except ε α :=
  match o with
  | some a => .ok a
  | none => .error e

theorem require_eq_ok {c : Prop} [Decidable c] {e : ε} {u : Unit}
    (h : require c e = .ok u) : c := by
  unfold require at h
  split at h
  · next hc => exact hc
  · cases h

theorem require_of {c : Prop} [Decidable c] (e : ε) (h : c) : require c e = .ok () :=
  if_pos h

theorem need_eq_ok {o : Option α} {e : ε} (h : need o e = .ok a) : o = some a := by
  cases o with
  | none => cases h
  | some b => cases h; rfl

variable {f : α → Except ε Unit}

/-- A loop that succeeds did so in every round. -/
theorem ok_of_forM : ∀ {as : List α} {u : Unit},
    as.forM f = .ok u → ∀ a ∈ as, f a = .ok ()
  | a :: as, _, h, b, hb => by
    obtain ⟨_, ha, has⟩ := bind_eq_ok h
    rcases mem_cons.mp hb with rfl | hb
    · exact ha
    · exact ok_of_forM has b hb

theorem forM_ok : ∀ {as : List α},
    (∀ a ∈ as, f a = .ok ()) → as.forM f = .ok ()
  | [], _ => rfl
  | a :: as, h => by
    have hrest : as.forM f = .ok () := forM_ok fun b hb => h b (mem_cons_of_mem _ hb)
    show (f a >>= fun _ => as.forM f) = .ok ()
    rw [h a mem_cons_self]
    exact hrest

theorem seq_ok {x y : Except ε Unit} (hx : x = .ok ()) (hy : y = .ok ()) :
    (x >>= fun _ => y) = .ok () := by
  rw [hx]
  exact hy

section Pairs

variable {ε α β γ : Type}

variable {R : α → β → Prop}

theorem map_of_forall₂ {f : β → γ} {g : α → γ} (hf : ∀ a b, R a b → f b = g a)
    {as : List α} {bs : List β} (h : Forall₂ R as bs) : bs.map f = as.map g := by
  induction h with
  | nil => rfl
  | cons hab _ ih => rw [map_cons, map_cons, hf _ _ hab, ih]

theorem forall_right_of_forall₂ {P : β → Prop} (hP : ∀ a b, R a b → P b) {as : List α} {bs : List β}
    (h : Forall₂ R as bs) : ∀ b ∈ bs, P b := by
  induction h with
  | nil =>
    intro b hb
    cases hb
  | cons hab _ ih =>
    intro b hb
    rcases mem_cons.mp hb with rfl | hb
    · exact hP _ _ hab
    · exact ih b hb

theorem forall₂_of_mapM {f : β → Except ε γ} : ∀ {bs : List β} {cs : List γ}, bs.mapM f = .ok cs →
    Forall₂ (fun b c => f b = .ok c) bs cs
  | [], cs, h => by
    cases h
    exact .nil
  | b :: bs, cs, h => by
    rw [mapM_cons] at h
    obtain ⟨c, hc, h⟩ := bind_eq_ok h
    obtain ⟨cs', hcs, h⟩ := bind_eq_ok h
    cases h
    exact .cons hc (forall₂_of_mapM hcs)

end Pairs

section Run

variable {σ : Type} {step : σ → σ → Prop}

/-- What every step preserves, every run preserves. -/
theorem run_preserves {P : σ → Prop} (hstep : ∀ s s', step s s' → P s → P s') {s s' : σ}
    (h : Relation.ReflTransGen step s s') (hs : P s) : P s' := by
  induction h with
  | refl => exact hs
  | tail _ hst ih => exact hstep _ _ hst ih

end Run

end TinyReverseProxy.Lib
