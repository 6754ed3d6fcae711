import Mathlib.Data.List.AList
import TinyReverseProxy.Lib.Control

/-!
# Read, modify, write

Operations that read one row of a table, compute the row to store and write it back later, while
other operations do the same. Nothing checks at the write that the row is still the one that was
read.

* In every run the row of a key is the last one written under it, and a write replaces that row
  (`Race.Chained`).
* In runs where an operation starts only when no other operation on its row is under way, a write
  replaces the row its operation read (`Race.serial_atomic`), and the table is as if the operations
  had been made one after the other (`Race.serial_rows`).
-/

namespace TinyReverseProxy.Lib

open List

/-- An operation that has read its row and not yet written. -/
structure Pending (ω ρ : Type) where
  op : ω
  read : Option ρ
  edited : ρ

/-- A write: the row the operation had read, the row it replaced and the row it wrote. -/
structure Written (ω ρ : Type) where
  op : ω
  read : Option ρ
  replaced : Option ρ
  written : ρ

structure Race (ω κ ρ : Type) where
  rows : AList fun _ : κ => ρ
  pending : List (Pending ω ρ)
  /-- The writes, the last one first. -/
  log : List (Written ω ρ)

inductive RaceAction (ω : Type) where
  | read (op : ω)
  /-- The write of the operation at a place of the pending ones. -/
  | write (i : Nat)

namespace Race

variable {ω κ ρ : Type} [DecidableEq κ] (key : ω → κ) (edit : (AList fun _ : κ => ρ) → ω → Option ρ)

def init (rows : AList fun _ : κ => ρ) : Race ω κ ρ := ⟨rows, [], []⟩

/-- An operation whose edit gives nothing ends at its read. -/
def act (s : Race ω κ ρ) : RaceAction ω → Race ω κ ρ
  | .read op =>
    match edit s.rows op with
    | none => s
    | some r => { s with pending := ⟨op, s.rows.lookup (key op), r⟩ :: s.pending }
  | .write i =>
    match s.pending[i]? with
    | none => s
    | some p =>
      { rows := s.rows.insert (key p.op) p.edited
        pending := s.pending.eraseIdx i
        log := ⟨p.op, p.read, s.rows.lookup (key p.op), p.edited⟩ :: s.log }

def Runs (meets : Race ω κ ρ → RaceAction ω → Prop) : Race ω κ ρ → Race ω κ ρ → Prop :=
  Relation.ReflTransGen fun s s' => ∃ action, meets s action ∧ s' = act key edit s action

/-- No other operation on the row is under way when an operation starts. -/
def Alone (s : Race ω κ ρ) : RaceAction ω → Prop
  | .read op => ∀ p ∈ s.pending, key p.op ≠ key op
  | .write _ => True

/-- What one action can do. -/
theorem act_cases (s : Race ω κ ρ) (action : RaceAction ω) :
    act key edit s action = s ∨
      (∃ op r, action = .read op ∧ edit s.rows op = some r ∧
        act key edit s action =
          { s with pending := ⟨op, s.rows.lookup (key op), r⟩ :: s.pending }) ∨
      ∃ i p, action = .write i ∧ s.pending[i]? = some p ∧
        act key edit s action =
          { rows := s.rows.insert (key p.op) p.edited
            pending := s.pending.eraseIdx i
            log := ⟨p.op, p.read, s.rows.lookup (key p.op), p.edited⟩ :: s.log } := by
  cases action with
  | read op =>
    cases hedit : edit s.rows op with
    | none => exact .inl (by rw [act, hedit])
    | some r => exact .inr (.inl ⟨op, r, rfl, hedit, by rw [act, hedit]⟩)
  | write i =>
    cases hp : s.pending[i]? with
    | none => exact .inl (by rw [act, hp])
    | some p => exact .inr (.inr ⟨i, p, rfl, hp, by rw [act, hp]⟩)

/-! ## What an operation wrote, it computed -/

/-- The row comes from the edit of a table in which the operation's row is the one it read. -/
def Computed (op : ω) (read : Option ρ) (edited : ρ) : Prop :=
  ∃ rows, rows.lookup (key op) = read ∧ edit rows op = some edited

structure Honest (s : Race ω κ ρ) : Prop where
  pending : ∀ p ∈ s.pending, Computed key edit p.op p.read p.edited
  log : ∀ w ∈ s.log, Computed key edit w.op w.read w.written

variable {key edit}

theorem Honest.act {s : Race ω κ ρ} (h : Honest key edit s) (action : RaceAction ω) :
    Honest key edit (s.act key edit action) := by
  rcases act_cases key edit s action with
    hsame | ⟨op, r, _, hedit, hact⟩ | ⟨i, p, _, hp, hact⟩
  · rw [hsame]
    exact h
  · rw [hact]
    refine ⟨fun p hp => ?_, h.log⟩
    rcases mem_cons.mp hp with rfl | hp
    · exact ⟨s.rows, rfl, hedit⟩
    · exact h.pending p hp
  · rw [hact]
    refine ⟨fun q hq => h.pending q (mem_of_mem_eraseIdx hq), fun w hw => ?_⟩
    rcases mem_cons.mp hw with rfl | hw
    · exact h.pending p (mem_of_getElem? hp)
    · exact h.log w hw

/-! ## The table holds the last write -/

variable (key) in
/-- The row of a key after the writes of a log. -/
def latest (start : AList fun _ : κ => ρ) : List (Written ω ρ) → κ → Option ρ
  | [], k => start.lookup k
  | w :: log, k => if key w.op = k then some w.written else latest start log k

variable (key) in
/-- Each write replaces the row the writes before it left. -/
def Chained (start : AList fun _ : κ => ρ) : List (Written ω ρ) → Prop
  | [] => True
  | w :: log => w.replaced = latest key start log (key w.op) ∧ Chained start log

theorem Chained.replaced {start : AList fun _ : κ => ρ} {later earlier : List (Written ω ρ)}
    {w : Written ω ρ} (h : Chained key start (later ++ w :: earlier)) :
    w.replaced = latest key start earlier (key w.op) := by
  induction later with
  | nil => exact h.1
  | cons v later ih => exact ih h.2

variable (key) in
/-- After a write under a key, the row of the key was written then or later. -/
theorem latest_of_written (start : AList fun _ : κ => ρ) (later earlier : List (Written ω ρ))
    (v : Written ω ρ) :
    ∃ u ∈ later ++ [v], key u.op = key v.op ∧
      latest key start (later ++ v :: earlier) (key v.op) = some u.written := by
  induction later with
  | nil => exact ⟨v, mem_singleton_self v, rfl, if_pos rfl⟩
  | cons w later ih =>
    by_cases hw : key w.op = key v.op
    · exact ⟨w, mem_cons_self, hw, if_pos hw⟩
    · obtain ⟨u, hu, hkey, hlatest⟩ := ih
      refine ⟨u, mem_cons_of_mem _ hu, hkey, ?_⟩
      rw [← hlatest]
      exact if_neg hw

variable (key) in
structure Tracks (start : AList fun _ : κ => ρ) (s : Race ω κ ρ) : Prop where
  rows : ∀ k, s.rows.lookup k = latest key start s.log k
  chained : Chained key start s.log

theorem Tracks.act {start : AList fun _ : κ => ρ} {s : Race ω κ ρ} (h : Tracks key start s)
    (action : RaceAction ω) : Tracks key start (s.act key edit action) := by
  rcases act_cases key edit s action with hsame | ⟨op, r, _, _, hact⟩ | ⟨i, p, _, _, hact⟩
  · rw [hsame]
    exact h
  · rw [hact]
    exact ⟨h.rows, h.chained⟩
  · rw [hact]
    refine ⟨fun k => ?_, h.rows _, h.chained⟩
    show (s.rows.insert (key p.op) p.edited).lookup k = if key p.op = k then _ else _
    split
    · next hk =>
      rw [← hk]
      exact AList.lookup_insert s.rows
    · next hk =>
      rw [AList.lookup_insert_ne (Ne.symm hk)]
      exact h.rows k

/-! ## One operation on a row at a time -/

variable (key) in
structure Serial (s : Race ω κ ρ) : Prop where
  apart : s.pending.Pairwise fun p q => key p.op ≠ key q.op
  fresh : ∀ p ∈ s.pending, p.read = s.rows.lookup (key p.op)
  atomic : ∀ w ∈ s.log, w.read = w.replaced

/-- Two places of a list whose elements are pairwise related, one way or the other. -/
theorem rel_of_mem_eraseIdx {α : Type} {R : α → α → Prop} (hsymm : ∀ {a b}, R a b → R b a)
    {l : List α} (h : l.Pairwise R) {i : Nat} {a b : α} (ha : l[i]? = some a)
    (hb : b ∈ l.eraseIdx i) : R b a := by
  induction l generalizing i with
  | nil => cases ha
  | cons c l ih =>
    obtain ⟨hc, hl⟩ := pairwise_cons.mp h
    cases i with
    | zero =>
      cases ha
      exact hsymm (hc b hb)
    | succ i =>
      rcases mem_cons.mp hb with rfl | hb
      · exact hc a (mem_of_getElem? ha)
      · exact ih hl ha hb

/-- An action that is alone on its key keeps the writes in line. -/
theorem Serial.act {s : Race ω κ ρ} (h : Serial key s) {action : RaceAction ω}
    (halone : Alone key s action) : Serial key (s.act key edit action) := by
  rcases act_cases key edit s action with hsame | ⟨op, r, rfl, _, hact⟩ | ⟨i, p, _, hp, hact⟩
  · rw [hsame]
    exact h
  · rw [hact]
    refine ⟨pairwise_cons.mpr ⟨fun q hq => Ne.symm (halone q hq), h.apart⟩, ?_, h.atomic⟩
    intro q hq
    rcases mem_cons.mp hq with rfl | hq
    · rfl
    · exact h.fresh q hq
  · rw [hact]
    refine ⟨h.apart.sublist (eraseIdx_sublist _ _), fun q hq => ?_, fun w hw => ?_⟩
    · -- the operations still under way are on other rows, which the write leaves alone
      have hne : key q.op ≠ key p.op := rel_of_mem_eraseIdx Ne.symm h.apart hp hq
      rw [AList.lookup_insert_ne hne]
      exact h.fresh q (mem_of_mem_eraseIdx hq)
    · rcases mem_cons.mp hw with rfl | hw
      · exact h.fresh p (mem_of_getElem? hp)
      · exact h.atomic w hw

/-! ## Runs -/

variable {meets : Race ω κ ρ → RaceAction ω → Prop} {start : AList fun _ : κ => ρ} {s : Race ω κ ρ}

theorem honest_of_runs (h : Runs key edit meets (init start) s) : Honest key edit s := by
  refine run_preserves (P := Honest key edit) ?_ h ⟨?_, ?_⟩
  · rintro s _ ⟨action, _, rfl⟩ hs
    exact hs.act action
  · exact fun p hp => absurd hp not_mem_nil
  · exact fun w hw => absurd hw not_mem_nil

theorem tracks_of_runs (h : Runs key edit meets (init start) s) : Tracks key start s := by
  refine run_preserves (P := Tracks key start) ?_ h ⟨fun k => rfl, trivial⟩
  rintro s _ ⟨action, _, rfl⟩ hs
  exact hs.act action

/-- Where operations on one row do not overlap, every write replaces the row its operation read. -/
theorem serial_atomic (h : Runs key edit (Alone key) (init start) s) :
    ∀ w ∈ s.log, w.read = w.replaced := by
  have hserial : Serial key s := by
    refine run_preserves (P := Serial key) ?_ h ⟨Pairwise.nil, ?_, ?_⟩
    · rintro s _ ⟨action, halone, rfl⟩ hs
      exact hs.act halone
    · exact fun p hp => absurd hp not_mem_nil
    · exact fun w hw => absurd hw not_mem_nil
  exact hserial.atomic

variable (key edit) in
/-- The table after operations that are made one after the other. -/
def oneByOne (rows : AList fun _ : κ => ρ) (ops : List ω) : AList fun _ : κ => ρ :=
  ops.foldl (fun rows op => (edit rows op).elim rows (rows.insert (key op))) rows

/-- With edits that look at their own row only, such a run comes to what its operations come to in
the order of their writes. -/
theorem serial_rows (hlocal : ∀ {rows rows' op}, rows.lookup (key op) = rows'.lookup (key op) →
      edit rows op = edit rows' op)
    (h : Runs key edit (Alone key) (init start) s) :
    s.rows = oneByOne key edit start (s.log.reverse.map (·.op)) := by
  refine (run_preserves (P := fun s => Serial key s ∧ Honest key edit s ∧
    s.rows = oneByOne key edit start (s.log.reverse.map (·.op))) ?_ h ?_).2.2
  · rintro s _ ⟨action, halone, rfl⟩ ⟨hserial, hhonest, hrows⟩
    refine ⟨hserial.act halone, hhonest.act action, ?_⟩
    rcases act_cases key edit s action with hsame | ⟨op, r, _, _, hact⟩ | ⟨i, p, _, hp, hact⟩
    · rw [hsame]
      exact hrows
    · rw [hact]
      exact hrows
    · -- the row is still the one that was read
      obtain ⟨rows, hread, hedit⟩ := hhonest.pending p (mem_of_getElem? hp)
      rw [hlocal (hread.trans (hserial.fresh p (mem_of_getElem? hp)))] at hedit
      rw [oneByOne] at hrows ⊢
      rw [hact, reverse_cons, map_append, foldl_append, ← hrows]
      simp [hedit]
  · exact ⟨⟨.nil, by simp [init], by simp [init]⟩, ⟨by simp [init], by simp [init]⟩, rfl⟩

end Race

end TinyReverseProxy.Lib
