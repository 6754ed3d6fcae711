import TinyReverseProxy.Lib.Text

/-!
# Paths with `.` and `..` segments

What a path means is said twice. `Walk` and `Resolves` are relations: a walk from a directory goes
down by the names that are left once every detour (`x/..`) is taken out, and never climbs above
where it started; from the root, `..` stays at the root. `resolve` computes the same with a stack
(`resolves_iff`).
-/

namespace TinyReverseProxy.Lib.Paths

open List

/-- The segment that climbs. -/
def up : Text := ".."

/-- Segments that go nowhere. -/
def isSkip (s : Text) : Bool := s = [] || s = "."

/-- Segments that go down. -/
def isName (s : Text) : Bool := !isSkip s && s ≠ up

theorem isSkip_up : isSkip up = false := by decide

/-- The segments lead down by the names, without climbing above the start. -/
inductive Walk : List Text → List Text → Prop
  | nil : Walk [] []
  | skip {s : Text} {w ns : List Text} : isSkip s = true → Walk w ns → Walk (s :: w) ns
  | down {s : Text} {w ns : List Text} : isName s = true → Walk w ns → Walk (s :: w) (s :: ns)
  | back {s : Text} {d w ns : List Text} : isName s = true → Walk d [] → Walk w ns →
      Walk (s :: (d ++ up :: w)) ns

/-- The segments lead from the root to the directory with these names. -/
inductive Resolves : List Text → List Text → Prop
  | nil : Resolves [] []
  | skip {s : Text} {w ns : List Text} : isSkip s = true → Resolves w ns → Resolves (s :: w) ns
  | up {w ns : List Text} : Resolves w ns → Resolves (up :: w) ns
  | down {s : Text} {w ns : List Text} : isName s = true → Walk w ns → Resolves (s :: w) (s :: ns)
  | back {s : Text} {d w ns : List Text} : isName s = true → Walk d [] → Resolves w ns →
      Resolves (s :: (d ++ up :: w)) ns

/-! ## The stack machine -/

/-- One segment; the stack has its top in front. -/
def pushSegment (stack : List Text) (s : Text) : List Text :=
  if isSkip s then stack else if s = up then stack.tail else s :: stack

def resolve (segments : List Text) : List Text := (segments.foldl pushSegment []).reverse

variable {s : Text}

theorem isName_iff : isName s = true ↔ ¬(s = [] ∨ s = ".") ∧ s ≠ ".." := by
  simp only [isName, isSkip, Bool.and_eq_true, Bool.not_eq_true', Bool.or_eq_false_iff,
    decide_eq_true_eq, decide_eq_false_iff_not, not_or]
  rfl

theorem pushSegment_skip (h : isSkip s = true) (stack : List Text) :
    pushSegment stack s = stack := if_pos h

theorem pushSegment_up (stack : List Text) : pushSegment stack up = stack.tail := by
  rw [pushSegment, isSkip_up, if_neg Bool.false_ne_true, if_pos rfl]

theorem pushSegment_name (h : isName s = true) (stack : List Text) :
    pushSegment stack s = s :: stack := by
  simp only [isName, Bool.and_eq_true, Bool.not_eq_true', decide_eq_true_eq] at h
  rw [pushSegment, h.1, if_neg Bool.false_ne_true, if_neg h.2]

variable {w ns : List Text}

theorem foldl_of_walk (h : Walk w ns) :
    ∀ stack, w.foldl pushSegment stack = ns.reverse ++ stack := by
  induction h with
  | nil => intro stack; rfl
  | skip hs _ ih =>
    intro stack
    rw [foldl_cons, pushSegment_skip hs, ih]
  | down hs _ ih =>
    intro stack
    rw [foldl_cons, pushSegment_name hs, ih]
    simp
  | back hs _ _ ihd ihw =>
    intro stack
    -- the name is pushed, the detour leaves it on top, and the climb pops it
    rw [foldl_cons, pushSegment_name hs, foldl_append, ihd, foldl_cons, pushSegment_up]
    exact ihw stack

theorem foldl_of_resolves (h : Resolves w ns) : w.foldl pushSegment [] = ns.reverse := by
  induction h with
  | nil => rfl
  | skip hs _ ih => rw [foldl_cons, pushSegment_skip hs, ih]
  | up _ ih =>
    rw [foldl_cons, pushSegment_up]
    exact ih
  | down hs hw =>
    rw [foldl_cons, pushSegment_name hs, foldl_of_walk hw, reverse_cons]
  | back hs hd _ ih =>
    rw [foldl_cons, pushSegment_name hs, foldl_append, foldl_of_walk hd, foldl_cons,
      pushSegment_up]
    exact ih

/-! ## Every path resolves

By induction on the last segment: each kind of segment can be added at the end. -/

theorem Walk.append {w' ns' : List Text} (h : Walk w ns) (h' : Walk w' ns') :
    Walk (w ++ w') (ns ++ ns') := by
  induction h with
  | nil => exact h'
  | skip hs _ ih => exact .skip hs ih
  | down hs _ ih => exact .down hs ih
  | back hs hd _ _ ih =>
    rw [cons_append, append_assoc]
    exact .back hs hd ih

theorem Walk.append_up {ms : List Text} (h : Walk w ms) :
    ∀ {ns : List Text} {a : Text}, ms = ns ++ [a] → Walk (w ++ [up]) ns := by
  induction h with
  | nil =>
    intro ns a heq
    simp at heq
  | skip hs _ ih =>
    intro ns a heq
    exact .skip hs (ih heq)
  | down hs hw ih =>
    intro ns a heq
    cases ns with
    | nil =>
      -- the name that is left is the one in front: all of the walk was a detour
      obtain ⟨rfl, rfl⟩ := cons.inj heq
      exact .back hs hw .nil
    | cons n ns =>
      obtain ⟨rfl, hns⟩ := cons.inj heq
      exact .down hs (ih hns)
  | back hs hd _ _ ih =>
    intro ns a heq
    rw [cons_append, append_assoc]
    exact .back hs hd (ih heq)

theorem Resolves.append {w' ns' : List Text} (h : Resolves w ns) (h' : Walk w' ns') :
    Resolves (w ++ w') (ns ++ ns') := by
  induction h with
  | nil =>
    induction h' with
    | nil => exact .nil
    | skip hs _ ih => exact .skip hs ih
    | down hs hw => exact .down hs hw
    | back hs hd _ _ ih => exact .back hs hd ih
  | skip hs _ ih => exact .skip hs ih
  | up _ ih => exact .up ih
  | down hs hw => exact .down hs (hw.append h')
  | back hs hd _ ih =>
    rw [cons_append, append_assoc]
    exact .back hs hd ih

theorem Resolves.append_up (h : Resolves w ns) : Resolves (w ++ [Paths.up]) ns.dropLast := by
  induction h with
  | nil => exact .up .nil
  | skip hs _ ih => exact .skip hs ih
  | up _ ih => exact .up ih
  | @down s w ns hs hw =>
    cases ns using reverseRecOn with
    | nil => exact .back hs hw .nil
    | append_singleton ns a =>
      rw [← cons_append, dropLast_concat]
      exact .down hs (hw.append_up rfl)
  | back hs hd _ ih =>
    rw [cons_append, append_assoc]
    exact .back hs hd ih

theorem resolves_resolve (segments : List Text) : Resolves segments (resolve segments) := by
  induction segments using reverseRecOn with
  | nil => exact .nil
  | append_singleton w s ih =>
    rw [resolve, foldl_append, foldl_cons, foldl_nil]
    by_cases hskip : isSkip s = true
    · rw [pushSegment_skip hskip]
      have := ih.append (.skip hskip .nil)
      rw [append_nil] at this
      exact this
    · by_cases hup : s = up
      · subst hup
        rw [pushSegment_up, ← dropLast_reverse]
        exact ih.append_up
      · have hname : isName s = true := by simp [isName, hskip, hup]
        rw [pushSegment_name hname, reverse_cons]
        exact ih.append (.down hname .nil)

variable {segments : List Text}

/-- The stack machine computes the relation. -/
theorem resolves_iff : Resolves segments ns ↔ resolve segments = ns := by
  constructor
  · intro h
    rw [resolve, foldl_of_resolves h, reverse_reverse]
  · rintro rfl
    exact resolves_resolve segments

/-- A path to below `n` is a detour at the root, then `n` itself, then a walk that stays below. -/
theorem resolves_cons_iff {n : Text} :
    Resolves segments (n :: ns) ↔ ∃ detour rest, segments = detour ++ n :: rest ∧ isName n = true ∧
      Resolves detour [] ∧ Walk rest ns := by
  constructor
  · intro h
    generalize hms : n :: ns = ms at h
    induction h with
    | nil => cases hms
    | @skip s w ms hs _ ih =>
      obtain ⟨detour, rest, rfl, hn, hd, hr⟩ := ih hms
      exact ⟨s :: detour, rest, rfl, hn, .skip hs hd, hr⟩
    | up _ ih =>
      obtain ⟨detour, rest, rfl, hn, hd, hr⟩ := ih hms
      exact ⟨up :: detour, rest, rfl, hn, .up hd, hr⟩
    | @down s w ms hs hw =>
      obtain ⟨rfl, rfl⟩ := cons.inj hms
      exact ⟨[], w, rfl, hs, .nil, hw⟩
    | @back s d w ms hs hd _ ih =>
      obtain ⟨detour, rest, rfl, hn, hdetour, hr⟩ := ih hms
      refine ⟨s :: (d ++ up :: detour), rest, ?_, hn, .back hs hd hdetour, hr⟩
      simp
  · rintro ⟨detour, rest, rfl, hn, hd, hr⟩
    exact hd.append (.down hn hr)

/-! ## Segments of a text -/

theorem not_mem_of_mem_splitOn {sep : Char} {t : Text} (h : s ∈ t.splitOn sep) : sep ∉ s := by
  intro hsep
  have hfalse : (sep == sep) = false := eq_false_of_mem_splitOnP h sep hsep
  simp at hfalse

theorem splitOn_slash (t : Text) : ('/' :: t).splitOn '/' = [] :: t.splitOn '/' :=
  splitOn_append_cons_self_of_not_mem not_mem_nil t

/-- A text starts with `/dir/` when its first segments are empty and `dir`, and another follows. -/
theorem prefix_dir_iff {dir t : Text} (hdir : '/' ∉ dir) :
    '/' :: (dir ++ ['/']) <+: t ↔ ∃ x xs, t.splitOn '/' = [] :: dir :: x :: xs := by
  constructor
  · rintro ⟨u, rfl⟩
    obtain ⟨x, xs, hu⟩ := exists_cons_of_ne_nil (splitOn_ne_nil '/' u)
    refine ⟨x, xs, ?_⟩
    have hsplit := splitOn_slash (dir ++ '/' :: u)
    rw [splitOn_append_cons_self_of_not_mem hdir, hu] at hsplit
    rw [← hsplit]
    simp
  · rintro ⟨x, xs, hsplit⟩
    have hjoin : ['/'].intercalate (t.splitOn '/') = t := intercalate_splitOn '/'
    refine ⟨['/'].intercalate (x :: xs), ?_⟩
    rw [← hjoin, hsplit]
    simp [intercalate_cons_cons]

/-- What a path resolves to are names among its segments. -/
theorem of_mem_resolve (h : s ∈ resolve segments) : s ∈ segments ∧ isName s = true := by
  refine foldlRecOn segments _
    (motive := fun stack => ∀ s ∈ stack, s ∈ segments ∧ isName s = true) ?_ ?_ s (mem_reverse.mp h)
  · intro s hs
    cases hs
  · intro stack hstack a ha s hs
    unfold pushSegment at hs
    split at hs
    · exact hstack s hs
    · next hskip =>
      split at hs
      · exact hstack s (mem_of_mem_tail hs)
      · next hup =>
        rcases mem_cons.mp hs with rfl | hs
        · exact ⟨ha, by simp [isName, hskip, hup]⟩
        · exact hstack s hs

/-- Names resolve to themselves. -/
theorem resolve_names (h : ∀ s ∈ ns, isName s = true) : resolve ns = ns := by
  have hwalk : Walk ns ns := by
    induction ns with
    | nil => exact .nil
    | cons n ns ih =>
      rw [forall_mem_cons] at h
      exact .down h.1 (ih h.2)
  exact resolves_iff.mp (Resolves.nil.append hwalk)

end TinyReverseProxy.Lib.Paths
