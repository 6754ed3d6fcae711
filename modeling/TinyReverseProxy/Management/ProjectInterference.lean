import TinyReverseProxy.Management.ProjectScope

/-!
# Requests on a project that reach into another

The condition on the rule ids that a request names is not only enough: where it fails there is a run
that changes another project. One behaviour of the outside shows it for all requests. Every hash map
starts with the other project, so a deletion finds the rule there first; and the store fails for
safety policies only, which comes right after the routing rules were written, so that a
configuration is applied halfway and the previous one is put back.

A rule that the other project has lost does not come back, so what is found missing at the end is
compared with what was there at the start.
-/

namespace TinyReverseProxy.Management

open Auth Lib Lib.Json Config Ends Option

/-! ## The outside -/

def isSafetyCall (call : StoreCall) : Bool := call = .upsertSafetyPolicy ||
  call = .deleteSafetyPolicy

/-- Nothing fails but the calls for safety policies, and `q` comes first in every map. -/
def interrupted (q : String) : Outside where
  storeError _ call := if isSafetyCall call then some "interrupted" else none
  syncError _ := none
  now _ := []
  uniqueId kind _ := kind
  mapOrder _ keys := if q ∈ keys then q :: keys.erase q else keys
  mapOrder_perm _ keys := by
    split
    · next hq => exact (List.perm_cons_erase hq).symm
    · exact .refl _
  setOrder _ items := items
  setOrder_perm _ _ := .refl _

theorem not_fails_interrupted {q : String} {calls : List StoreCall}
    (h : ∀ call ∈ calls, isSafetyCall call = false) : ¬ Fails (interrupted q) calls := by
  rintro ⟨n, call, hcall, hfails⟩
  simp [interrupted, h call hcall] at hfails

section Interference

variable {out : Outside} {serde : SerdeJson} {api : LlmGatewayApi}
  {snapshot : ProjectConfigSnapshot} {α : Type} {m : Gov α} {p q : String} {c c' c'' : Config}

theorem Acts.returns {calls : List StoreCall} {R : Config → Config → Prop} {J T : Config → Prop}
    (h : Acts out calls m R) (hquiet : ¬ Fails out calls) (hJ : ∀ c c', J c → R c c' → T c') :
    Ends (On J) m (fun _ => On T) fun _ => False :=
  (h.leads hJ).fail fun _ hs => hquiet hs.1

theorem callStore_fails {call : StoreCall} {run : Text → ConfigTables → α × ConfigTables}
    (h : isSafetyCall call = true) :
    Ends (fun node => node.config.tables ≠ none) (callStore (interrupted q) call run)
      (fun _ _ => False) fun _ => True := by
  intro node hnode
  unfold callStore
  cases htables : node.config.tables with
  | none => exact hnode htables
  | some t => simp [interrupted, h]

/-- The deletion takes the rule from `q`, if the deletion goes ahead. -/
theorem not_mem_of_dropRule {n : Nat} {ruleId : Text} (hdeletes : c.deletes ruleId = true) :
    ruleId ∉ (c.dropRule ((interrupted q).mapOrder n c.memory.routingRules.table.keys)
      ruleId).ruleIds q := by
  by_cases hkey : q ∈ c.memory.routingRules.table.keys
  · rw [show (interrupted q).mapOrder n c.memory.routingRules.table.keys = q :: _ from if_pos hkey]
    exact not_mem_ruleIds_dropRule hdeletes
  · intro hmem
    have hnone : c.memory.routingRules.table.lookup q = none := AList.lookup_eq_none.mpr hkey
    have hmem' := mem_ruleIds_dropRule hmem
    rw [ruleIds, ByProject.records, hnone] at hmem'
    cases hmem'

/-! ## Rules that are gone stay away -/

/-- The store is still there, and the project has no rule that it did not have. -/
structure Shrinks (q : String) (c c' : Config) : Prop where
  stored : c.tables ≠ none → c'.tables ≠ none
  rows : ∀ id, c.row q id = none → c'.row q id = none
  rules : ∀ id, id ∉ c.ruleIds q → id ∉ c'.ruleIds q

theorem Shrinks.refl (q : String) (c : Config) : Shrinks q c c :=
  ⟨fun h => h, fun _ h => h, fun _ h => h⟩

theorem Shrinks.trans (h : Shrinks q c c') (h' : Shrinks q c' c'') : Shrinks q c c'' where
  stored hstored := h'.stored (h.stored hstored)
  rows id hid := h'.rows id (h.rows id hid)
  rules id hid := h'.rules id (h.rules id hid)

theorem OthersKept.shrinks (h : OthersKept p c c') (hq : q ≠ p) : Shrinks q c c' where
  stored := by
    have hviews : c'.tables.map (·.view q) = c.tables.map (·.view q) := congrArg Prod.snd (h q hq)
    intro hstored hnone
    rw [hnone] at hviews
    exact hstored (map_eq_none_iff.mp hviews.symm)
  rows id hid := by rw [row_of_view (h q hq), hid]
  rules id hid := by rwa [ruleIds_of_view (h q hq)]

theorem shrinks_putRule {record : RoutingRuleRecord} (hq : q ≠ record.projectId) :
    Shrinks q c (c.putRule record) where
  stored := by simp [putRule, withRules, write]
  rows id hid := by
    rw [row_putRule hq, hid]
    exact ite_self _
  rules id hid := by rwa [ruleIds_putRule hq]

theorem shrinks_dropRule {order : List String} {ruleId : Text} :
    Shrinks q c (c.dropRule order ruleId) where
  stored := by
    rw [dropRule]
    split
    · simp [withRules, write]
    · exact id
  rows id hid := by
    rw [row_dropRule, hid]
    exact ite_self _
  rules _ hid hmem := hid (mem_ruleIds_dropRule hmem)

theorem applyInner_shrinks (hq : q ≠ snapshot.projectId) :
    Keeps (On (Shrinks q c)) (applyProjectConfigSnapshotInner out serde api snapshot) := by
  refine applyInner_keeps (fun _ _ hc haside => hc.trans (haside.kept.shrinks hq))
    (fun _ _ _ hc => hc.trans shrinks_dropRule) fun hown record hrecord _ hc =>
      hc.trans (shrinks_putRule ?_)
  rwa [hown.routingRules record hrecord]

/-! ## Replacing the rules of a project -/

/-- The rules of `p` were replaced by those of the ids `desired`, and `q` has lost whatever had an
id of the ones written or removed. -/
structure Replaced (p q : String) (desired : List Text) (c c' : Config) : Prop where
  shrinks : Shrinks q c c'
  rows : ∀ id, id ∈ desired ∨ id ∈ c.ruleIds p → c'.row q id = none
  rules : ∀ id ∈ c.ruleIds p, id ∉ desired → c.deletes id = true → id ∉ c'.ruleIds q
  present : ∀ id ∈ desired, id ∈ c'.ruleIds p ∧ c'.deletes id = true

theorem Replaced.aside {desired : List Text} (h : Replaced p q desired c c') (hq : q ≠ p)
    (haside : Aside p c' c'') : Replaced p q desired c c'' where
  shrinks := h.shrinks.trans (haside.kept.shrinks hq)
  rows id hid := (haside.kept.shrinks hq).rows id (h.rows id hid)
  rules id hid hgone hdeletes := (haside.kept.shrinks hq).rules id (h.rules id hid hgone hdeletes)
  present id hid := by
    rw [haside.ruleIds, haside.deletes]
    exact h.present id hid

theorem Replaced.of_aside {desired : List Text} (h : Replaced p q desired c' c'') (hq : q ≠ p)
    (haside : Aside p c c') : Replaced p q desired c c'' where
  shrinks := (haside.kept.shrinks hq).trans h.shrinks
  rows id hid := by
    rw [← haside.ruleIds] at hid
    exact h.rows id hid
  rules id hid hgone hdeletes := by
    rw [← haside.ruleIds] at hid
    rw [← haside.deletes] at hdeletes
    exact h.rules id hid hgone hdeletes
  present := h.present

/-- Deleting ids one after the other takes each from `q`. -/
theorem deleteAll_taken {ids : List Text} (c : Config) :
    Ends (At c) (ids.forM fun ruleId => do let _ ← deleteRoutingRule (interrupted q) ruleId)
      (fun _ => On fun c' => Shrinks q c c' ∧ ∀ id ∈ ids,
        c'.row q id = none ∧ (c.deletes id = true → id ∉ c'.ruleIds q))
      fun _ => False := by
  have hquiet : ¬ Fails (interrupted q) [.deleteRoutingRule, .appendGovernanceChange] :=
    not_fails_interrupted (by decide)
  have hdelete : ∀ {J : Config → Prop} {T : Config → Prop} (id : Text),
      (∀ c n, J c → T (c.dropRule
        ((interrupted q).mapOrder n c.memory.routingRules.table.keys) id)) →
      Ends (On J) (do let _ ← deleteRoutingRule (interrupted q) id) (fun _ => On T)
        fun _ => False := by
    intro J T id hstep
    refine .bind (deleteRoutingRule_acts.returns hquiet ?_) fun _ => .pure fun _ hs => hs
    rintro c₁ _ hc ⟨n, rfl⟩
    exact hstep c₁ n hc
  -- an id that could be deleted at the start still can, unless `q` is rid of it
  let I : Config → Prop := fun c' => Shrinks q c c' ∧
    ∀ id, c.deletes id = true → c'.deletes id = true ∨ id ∉ c'.ruleIds q
  let G : Text → Config → Prop := fun id c' =>
    c'.row q id = none ∧ (c.deletes id = true → id ∉ c'.ruleIds q)
  have hround : ∀ id ∈ ids, Ends (On I) (do let _ ← deleteRoutingRule (interrupted q) id)
      (fun _ node => On I node ∧ On (G id) node) fun _ => False := by
    intro id _
    refine hdelete (T := fun c' => I c' ∧ G id c') id fun c₁ n hc => ?_
    have hgone : c.deletes id = true →
        id ∉ (c₁.dropRule ((interrupted q).mapOrder n c₁.memory.routingRules.table.keys)
          id).ruleIds q := by
      intro hid
      rcases hc.2 id hid with hdeletes | hnot
      · exact not_mem_of_dropRule hdeletes
      · exact shrinks_dropRule.rules id hnot
    refine ⟨⟨hc.1.trans shrinks_dropRule, fun id' hid' => ?_⟩, ?_, hgone⟩
    · by_cases hsame : id' = id
      · subst hsame
        exact .inr (hgone hid')
      · rw [deletes_dropRule_ne hsame]
        exact (hc.2 id' hid').imp_right (shrinks_dropRule.rules id')
    · rw [row_dropRule, if_pos rfl]
  have hlater : ∀ id ∈ ids, ∀ id', Ends (fun node => On I node ∧ On (G id') node)
      (do let _ ← deleteRoutingRule (interrupted q) id) (fun _ => On (G id')) fun _ => False := by
    intro id _ id'
    refine hdelete (J := fun c' => I c' ∧ G id' c') id fun c₁ n hc => ?_
    exact ⟨shrinks_dropRule.rows id' hc.2.1, fun hid => shrinks_dropRule.rules id' (hc.2.2 hid)⟩
  refine ((forM_goals hround hlater).pre ?_).post fun _ _ hs => ⟨hs.1.1, hs.2⟩
  rintro node rfl
  exact ⟨.refl _ _, fun id hid => .inl hid⟩

/-- Writing records one after the other takes the rows of their ids from `q`. -/
theorem upsertAll_put {records : List RoutingRuleRecord}
    (hp : ∀ record ∈ records, record.projectId = p) (hq : q ≠ p) (c : Config) :
    Ends (At c) (records.forM (upsertRoutingRule (interrupted q)))
      (fun _ => On fun c' => Shrinks q c c' ∧ ∀ record ∈ records,
        c'.row q record.ruleId = none ∧ record.ruleId ∈ c'.ruleIds p ∧
          c'.deletes record.ruleId = true)
      fun _ => False := by
  have hquiet : ¬ Fails (interrupted q) [.upsertRoutingRule, .appendGovernanceChange] :=
    not_fails_interrupted (by decide)
  have hother : ∀ record ∈ records, q ≠ record.projectId := by
    intro record hrecord
    rwa [hp record hrecord]
  -- a rule once written stays written, since later rounds only write
  let G : RoutingRuleRecord → Config → Prop := fun record c' =>
    c'.row q record.ruleId = none ∧ record.ruleId ∈ c'.ruleIds p ∧ c'.deletes record.ruleId = true
  have hround : ∀ record ∈ records, Ends (On (Shrinks q c))
      (upsertRoutingRule (interrupted q) record)
      (fun _ node => On (Shrinks q c) node ∧ On (G record) node) fun _ => False := by
    intro record hrecord
    refine upsertRoutingRule_acts.returns (T := fun c' => Shrinks q c c' ∧ G record c') hquiet ?_
    rintro c₁ _ hc rfl
    refine ⟨hc.trans (shrinks_putRule (hother record hrecord)), ?_, ?_, ?_⟩
    · rw [row_putRule (hother record hrecord), if_pos rfl]
    · rw [← hp record hrecord]
      exact mem_ruleIds_putRule.mpr (.inl rfl)
    · simp [deletes_putRule]
  have hlater : ∀ record ∈ records, ∀ earlier,
      Ends (fun node => On (Shrinks q c) node ∧ On (G earlier) node)
      (upsertRoutingRule (interrupted q) record) (fun _ => On (G earlier)) fun _ => False := by
    intro record hrecord earlier
    refine upsertRoutingRule_acts.returns (J := fun c' => Shrinks q c c' ∧ G earlier c') hquiet ?_
    rintro c₁ _ ⟨-, hrow, hmem, hdeletes⟩ rfl
    refine ⟨(shrinks_putRule (hother record hrecord)).rows _ hrow, ?_, ?_⟩
    · rw [← hp record hrecord] at hmem ⊢
      exact mem_ruleIds_putRule.mpr (.inr hmem)
    · simp [deletes_putRule, hdeletes]
  refine (forM_goals hround hlater).pre ?_
  rintro node rfl
  exact .refl _ _

/-- The rules are replaced, at the cost of the other project. -/
theorem applyRoutingRules_replaced (hown : snapshot.Own) (hq : q ≠ snapshot.projectId)
    (c : Config) :
    Ends (At c) (applyRoutingRules (interrupted q) snapshot)
      (fun _ => On (Replaced snapshot.projectId q snapshot.ruleIds c)) fun _ => False := by
  refine .bind (reads_ends (·.memory.routingRules.records snapshot.projectId) fun _ => rfl)
    fun rules => ?_
  rintro node ⟨rfl, hnode⟩
  refine bind (difference_ends c) (fun items => ?_) node hnode
  rintro node ⟨hitems, hnode⟩
  refine bind (deleteAll_taken c) (fun _ => ?_) node hnode
  rintro s ⟨hdropped, hs⟩
  refine (upsertAll_put hown.routingRules hq s.config).post (fun _ s' hs' => ?_) s rfl
  obtain ⟨hshrinks, hput⟩ := hs'
  have hmem : ∀ id ∈ snapshot.ruleIds, ∃ record ∈ snapshot.routingRules, record.ruleId = id :=
    fun id hid => List.mem_map.mp hid
  refine ⟨hdropped.trans hshrinks, fun id hid => ?_, fun id hid hgone hdeletes => ?_,
    fun id hid => ?_⟩
  · by_cases hdesired : id ∈ snapshot.ruleIds
    · obtain ⟨record, hrecord, rfl⟩ := hmem id hdesired
      exact (hput record hrecord).1
    · have hitem := (hitems id).mpr ⟨hid.resolve_left hdesired, hdesired⟩
      exact hshrinks.rows id (hs id hitem).1
  · exact hshrinks.rules id ((hs id ((hitems id).mpr ⟨hid, hgone⟩)).2 hdeletes)
  · obtain ⟨record, hrecord, rfl⟩ := hmem id hid
    exact (hput record hrecord).2

/-! ## Halfway, and back -/

/-- The rest of the configuration is not reached: the safety policy fails first. -/
theorem applyOthers_interrupted (hown : snapshot.Own) (hq : q ≠ snapshot.projectId)
    {desired : List Text} (htables : c.tables ≠ none) :
    Ends (On (Replaced snapshot.projectId q desired c))
      (applyOthers (interrupted q) api snapshot) (fun _ _ => False)
      (On (Replaced snapshot.projectId q desired c)) := by
  have hsafety : Ends (fun node => node.config.tables ≠ none)
      (applyOptional snapshot.safetyPolicy (upsertSafetyPolicy (interrupted q))
        (deleteSafetyPolicy (interrupted q) snapshot.projectId)) (fun _ _ => False)
      fun _ => True := by
    cases snapshot.safetyPolicy with
    | some record =>
      exact fun node hnode => bind (callStore_fails rfl) (fun _ _ h => h.elim) node hnode
    | none =>
      refine .bind (Q := fun _ _ => False) ?_ fun _ _ h => h.elim
      exact fun node hnode => bind (callStore_fails rfl) (fun _ _ h => h.elim) node hnode
  -- so nothing after the safety policy is reached
  have hnever : Ends (fun node => node.config.tables ≠ none)
      (applyOthers (interrupted q) api snapshot) (fun _ _ => False) fun _ => True :=
    .bind hsafety fun _ _ h => h.elim
  intro node hreplaced
  have haside : EndsIn (· = node) (applyOthers (interrupted q) api snapshot)
      (On (Aside snapshot.projectId node.config)) := by
    refine (applyOthers_keeps hown).pre ?_
    rintro s rfl
    exact .refl _ _
  have hnever' : Ends (· = node) (applyOthers (interrupted q) api snapshot) _ _ :=
    hnever.pre (fun s hs => by rw [hs]; exact hreplaced.shrinks.stored htables)
  exact ((haside.and hnever').post fun _ _ hs => hs.2).fail (fun s hs => hreplaced.aside hq hs.1)
    node rfl

/-- The configuration is applied up to the routing rules. -/
theorem applyInner_interrupted (hvalid : validateAgainstRuntime serde api snapshot = .ok ())
    (hq : q ≠ snapshot.projectId) (htables : c.tables ≠ none) :
    Ends (At c) (applyProjectConfigSnapshotInner (interrupted q) serde api snapshot)
      (fun _ _ => False) (On (Replaced snapshot.projectId q snapshot.ruleIds c)) := by
  have hown := own_of_validated hvalid
  refine .bind (.lift_ok hvalid) fun _ => ?_
  refine .bind getNode_ends fun now => ?_
  rintro node ⟨rfl, hnode⟩
  obtain ⟨t, hnow⟩ := ne_none_iff_exists'.mp htables
  rw [hnow]
  have hpolicy := (applyPolicy_acts hown).returns (J := (· = now.config))
    (T := Aside snapshot.projectId now.config) (not_fails_interrupted (q := q) (by decide))
    fun _ _ hc haside => hc ▸ haside
  refine bind hpolicy.total (fun _ => ?_) node hnode
  intro s haside
  have hrules : EndsIn (At s.config) (applyRoutingRules (interrupted q) snapshot)
      (On (Replaced snapshot.projectId q snapshot.ruleIds now.config)) :=
    (applyRoutingRules_replaced hown hq s.config).total.post fun _ _ hs => hs.of_aside hq haside
  exact bind hrules (fun _ => applyOthers_interrupted hown hq htables) s rfl

/-- What `q` has lost after a configuration was applied up to the routing rules and the previous one
was put back. -/
structure Taken (serde : SerdeJson) (api : LlmGatewayApi) (snapshot : ProjectConfigSnapshot)
    (q : String) (c c' : Config) : Prop where
  rows : ∀ id, id ∈ snapshot.ruleIds ∨ id ∈ c.ruleIds snapshot.projectId → c'.row q id = none
  rules : ∀ id ∈ c.ruleIds snapshot.projectId, id ∉ snapshot.ruleIds → c.deletes id = true →
    id ∉ c'.ruleIds q
  restored : validateAgainstRuntime serde api (c.snapshotOf snapshot.projectId) = .ok () →
    ∀ id ∈ snapshot.ruleIds, id ∉ c.ruleIds snapshot.projectId → id ∉ c'.ruleIds q

/-- If in the end every other project has what it had, there was nothing to take. -/
theorem mayApply_of_taken (h : ∀ q, q ≠ snapshot.projectId →
      ∃ c', Taken serde api snapshot q c c' ∧ OthersKept snapshot.projectId c c') :
    MayApply serde api c snapshot := by
  refine ⟨⟨fun id hid q hq => ?_, fun id hid hgone hdeletes q hq => ?_⟩,
    fun hvalid id hid hnew q hq => ?_⟩
  all_goals
    obtain ⟨c', htaken, hkept⟩ := h q hq
  · rw [← row_of_view (hkept q hq)]
    exact htaken.rows id hid
  · rw [← ruleIds_of_view (hkept q hq)]
    exact htaken.rules id hid hgone hdeletes
  · rw [← ruleIds_of_view (hkept q hq)]
    exact htaken.restored hvalid id hid hnew

/-- Putting the previous configuration back does not give the other project its rules again. -/
theorem restoreProjectConfig_taken {applyError : String} (hq : q ≠ snapshot.projectId)
    (htables : c.tables ≠ none) :
    EndsIn (On (Replaced snapshot.projectId q snapshot.ruleIds c))
      (restoreProjectConfig (interrupted q) serde api (c.snapshotOf snapshot.projectId) applyError)
      (On (Taken serde api snapshot q c)) := by
  intro node hreplaced
  have hq' : q ≠ (c.snapshotOf snapshot.projectId).projectId := hq
  -- what the first attempt took stays taken, whatever restoring does
  have hfirst : ∀ {s : Node}, Shrinks q node.config s.config →
      (validateAgainstRuntime serde api (c.snapshotOf snapshot.projectId) = .ok () →
        ∀ id ∈ snapshot.ruleIds, id ∉ c.ruleIds snapshot.projectId → id ∉ s.config.ruleIds q) →
      On (Taken serde api snapshot q c) s := fun hshrinks hrestored =>
    { rows := fun id hid => hshrinks.rows id (hreplaced.rows id hid)
      rules := fun id hid hgone hdeletes =>
        hshrinks.rules id (hreplaced.rules id hid hgone hdeletes)
      restored := hrestored }
  let restoring :=
    applyProjectConfigSnapshotInner (interrupted q) serde api (c.snapshotOf snapshot.projectId)
  have hrestore : EndsIn (· = node) restoring (On (Taken serde api snapshot q c)) := by
    have hshrinks : EndsIn (· = node) restoring (On (Shrinks q node.config)) := by
      refine (applyInner_shrinks hq').pre ?_
      rintro s rfl
      exact .refl _ _
    by_cases hvalid : validateAgainstRuntime serde api (c.snapshotOf snapshot.projectId) = .ok ()
    · have hagain : Ends (· = node) restoring (fun _ _ => False)
          (On (Replaced snapshot.projectId q (c.ruleIds snapshot.projectId) node.config)) :=
        (applyInner_interrupted hvalid hq' (hreplaced.shrinks.stored htables)).pre fun _ hs =>
          congrArg Node.config hs
      refine ((hshrinks.and hagain).post fun _ _ hs => hs.2.elim).fail ?_
      rintro s ⟨hs, hrules⟩
      -- the new rules are in memory and in the store by now, so restoring deletes them
      refine hfirst hs fun _ id hid hnew => ?_
      obtain ⟨hmem, hdeletes⟩ := hreplaced.present id hid
      exact hrules.rules id hmem hnew hdeletes
    · have htaken : ∀ s, On (Shrinks q node.config) s → On (Taken serde api snapshot q c) s :=
        fun s hs => hfirst hs fun h => absurd h hvalid
      exact (hshrinks.post fun _ => htaken).fail htaken
  refine bind hrestore.attempt (fun result => ?_) node rfl
  cases result with
  | ok | error => exact .throw fun _ hs => hs

/-- Applying a configuration takes the rules of another project that have its ids. -/
theorem applyProjectConfig_taken {source : Text} (hauth : api.authService ≠ none)
    (htables : c.tables ≠ none) (hvalid : validateAgainstRuntime serde api snapshot = .ok ())
    (hq : q ≠ snapshot.projectId) :
    EndsIn (At c) (applyProjectConfig (interrupted q) serde api snapshot source)
      (On (Taken serde api snapshot q c)) := by
  refine .bind getNode_ends fun now => ?_
  rintro node ⟨rfl, hnode⟩
  obtain ⟨service, hservice⟩ := ne_none_iff_exists'.mp hauth
  obtain ⟨t, hnow⟩ := ne_none_iff_exists'.mp htables
  rw [hservice, hnow]
  refine bind (.lift_ok hvalid) (fun _ => ?_) node hnode
  refine .bind ((projectConfigSnapshotInner_ends now.config).fail fun _ hs =>
    absurd hs.1 (not_fails_interrupted (by decide))) fun previous => ?_
  rintro s ⟨hprevious, hs⟩
  refine bind ((applyInner_interrupted hvalid hq htables).attempt) (fun result => ?_) s hs
  cases result with
  | ok u => exact fun _ hs => hs.elim
  | error applyError =>
    rw [hprevious]
    exact restoreProjectConfig_taken hq htables

/-- A rollback takes the other project's rules, too. -/
theorem rollbackProjectConfig_taken {node : Node} {revisionId : Text}
    {revision : ProjectConfigRevision} (hauth : api.authService ≠ none)
    (htables : node.config.tables ≠ none) (hrevision : node.revision p revisionId = some revision)
    (hvalid : validateAgainstRuntime serde api revision.snapshot = .ok ()) (hq : q ≠ p) :
    EndsIn (· = node) (rollbackProjectConfig (interrupted q) serde api p revisionId)
      (On (Taken serde api revision.snapshot q node.config)) := by
  refine .bind .get_at fun now => ?_
  rintro s ⟨rfl, rfl⟩
  obtain ⟨service, hservice⟩ := ne_none_iff_exists'.mp hauth
  obtain ⟨t, hnow⟩ := ne_none_iff_exists'.mp htables
  rw [hservice, hnow]
  refine bind ((getProjectConfigRevision_ends s).fail fun _ hs =>
    absurd hs.1 (not_fails_interrupted (by decide))) (fun found => ?_) s rfl
  rintro s' ⟨hfound, hs'⟩
  rw [hfound htables, hrevision]
  have hq' : q ≠ revision.snapshot.projectId := by rwa [own_of_revision hrevision]
  refine bind (applyProjectConfig_taken hauth htables hvalid hq') (fun result => ?_) s' hs'
  cases result with
  | some revision => exact .pure fun _ hs => hs
  | none => exact .throw fun _ hs => hs

/-! ## Requests -/

/-- The condition is needed: a request that leaves the other projects alone whatever the outside
does meets it. -/
theorem scoped_of_kept {node : Node} {request : ProjectRequest} (hauth : api.authService ≠ none)
    (h : ∀ out, OthersKept p node.config
      (leaves (handleProjectRequest out serde api p request) node).config) :
    Scoped serde api node p request := by
  -- each request is run in the one outside that reaches q: q comes first in every map
  cases request with
  | createRoutingRule body generatedId =>
    rintro text rfl q hq
    have hput : EndsIn (· = node) (handleProjectRequest (interrupted q) serde api p
        (.createRoutingRule (.ok text) generatedId))
        (On fun c' => c'.row q (ruleIdFor text generatedId) = none) := by
      refine ((createRoutingRule_ends hauth node.config).total.pre fun s hs =>
        congrArg Node.config hs).post fun _ s hs => ?_
      rcases hs with ⟨record, hid, hp, hs⟩ | ⟨-, hfails⟩
      · have hq' : q ≠ record.projectId := by rwa [hp]
        rw [On, hs, row_putRule hq', if_pos hid.symm]
      · exact absurd hfails (not_fails_interrupted (by decide))
    -- the row is gone after the request, and the request has not changed it
    rw [← row_of_view (h (interrupted q) q hq)]
    exact hput.leaves rfl
  | deleteRoutingRule ruleId =>
    -- the deletion drops the rule wherever it is, in the tables and in memory
    have hdropped : ∀ q, EndsIn (· = node) (handleProjectRequest (interrupted q) serde api p
        (.deleteRoutingRule ruleId))
        (On fun c' => c'.row q ruleId = none ∧
          (node.config.deletes ruleId = true → ruleId ∉ c'.ruleIds q)) := by
      intro q
      refine ((deleteRoutingRule_ends hauth node.config).total.pre fun s hs =>
        congrArg Node.config hs).post fun _ s hs => ?_
      rcases hs with ⟨n, hs⟩ | ⟨-, hfails⟩
      · rw [On, hs]
        refine ⟨?_, not_mem_of_dropRule⟩
        rw [row_dropRule, if_pos rfl]
      · exact absurd hfails (not_fails_interrupted (by decide))
    refine ⟨fun q hq => ?_, fun hdeletes q hq => ?_⟩
    · rw [← row_of_view (h (interrupted q) q hq)]
      exact ((hdropped q).leaves rfl).1
    · rw [← ruleIds_of_view (h (interrupted q) q hq)]
      exact ((hdropped q).leaves rfl).2 hdeletes
  | putConfig body =>
    rintro text snapshot rfl hparsed htables hvalid
    have hp := projectId_of_parsed hparsed
    subst hp
    refine mayApply_of_taken fun q hq => ⟨_, ?_, h (interrupted q)⟩
    have happly : Ends (At node.config) (applyProjectConfig (interrupted q) serde api snapshot
        "apply_project_config") _ _ := applyProjectConfig_taken hauth htables hvalid hq
    have hanswer : EndsIn (· = node)
        (handleProjectRequest (interrupted q) serde api snapshot.projectId
        (.putConfig (.ok text))) (On (Taken serde api snapshot q node.config)) := by
      simp only [handleProjectRequest, hparsed]
      exact answer_ends (happly.pre (fun s hs => congrArg Node.config hs))
    exact hanswer.leaves rfl
  | rollback revisionId =>
    intro revision hrevision htables hvalid
    have hp := own_of_revision hrevision
    refine mayApply_of_taken fun q hq => ?_
    rw [hp] at hq ⊢
    refine ⟨_, ?_, h (interrupted q)⟩
    exact (answer_ends (rollbackProjectConfig_taken hauth htables hrevision hvalid hq)).leaves rfl

end Interference

/-- The request gets past the permission check, and there is a configuration to change. -/
def Permitted (api : LlmGatewayApi) (auth : Option AuthContext) (p : String)
    (request : ProjectRequest) : Prop :=
  api.authService ≠ none ∧ ensurePermission api.authService auth request.permission (some p) = none

/-- A request on `p` leaves all other projects alone, whatever the outside does, exactly if it is
not let through or the rules it names are not those of another project. -/
theorem serveProject_keeps_others_iff (serde : SerdeJson) (api : LlmGatewayApi) (node : Node)
    (auth : Option AuthContext) (p : String) (request : ProjectRequest) :
    (∀ out, OthersKept p node.config
        (leaves (serveProject out serde api auth p request) node).config) ↔
      (Permitted api auth p request → Scoped serde api node p request) := by
  cases hguard : ensurePermission api.authService auth request.permission (some p) with
  | some response =>
    have hserve : ∀ out, serveProject out serde api auth p request = pure response := by
      intro out
      rw [serveProject, hguard]
    constructor
    · rintro - ⟨-, hnone⟩
      rw [hguard] at hnone
      cases hnone
    · intro _ out
      rw [hserve]
      exact .refl _ _
  | none =>
    have hserve : ∀ out, serveProject out serde api auth p request =
        handleProjectRequest out serde api p request := by
      intro out
      rw [serveProject, hguard]
    simp only [hserve]
    constructor
    · intro h hpermitted
      exact scoped_of_kept hpermitted.1 h
    · intro h out
      exact (handleProjectRequest_kept node fun hauth => h ⟨hauth, hguard⟩).leaves rfl

/-! ## A rule of another project -/

def aliceApi : LlmGatewayApi where
  authService := some aliceService
  configuredProviders := []
  semanticSafety := false

/-- The rule that a body naming only this id makes. -/
def ruleOf (projectId : String) (ruleId : Text) : RoutingRuleRecord :=
  routingRuleFrom plainSerde projectId [] ruleId []

/-- One rule, of project `q`, in memory and in the store. -/
def nodeOfQ : Node where
  config :=
    { memory :=
        { emptyMemory with
          routingRules := ByProject.upsert .empty (fun _ => false) ruleBefore
            (ruleOf "q" "rule-q") }
      tables := some
        { emptyTables with routingRules := AList.singleton "rule-q" (ruleOf "q" "rule-q") } }
  history := ∅
  calls := 0

/-- Alice, who may manage the routing rules of `p` only, deletes a rule of `q` through `p`, or
replaces its row by a rule of `p`. -/
theorem rule_of_other_project_taken :
    (∀ ctx ∈ aliceService.authenticateBearer id "alice-token", ScopedTo "p" ctx) ∧
    nodeOfQ.config.ruleIds "q" = ["rule-q".toList] ∧
    nodeOfQ.config.row "q" "rule-q".toList = some (ruleOf "q" "rule-q".toList) ∧
    (∃ request,
      projectRoute .delete "p/routing-rules/rule-q".toList (.ok []) [] = some ("p", request) ∧
      let after := leaves (serveProject undisturbed plainSerde aliceApi
        (aliceService.authenticateBearer id "alice-token") "p" request) nodeOfQ
      after.config.ruleIds "q" = [] ∧ after.config.row "q" "rule-q".toList = none) ∧
    (∃ request,
      projectRoute .post "p/routing-rules".toList
        (.ok "\x7b\"rule_id\":\"rule-q\"\x7d".toList) [] = some ("p", request) ∧
      let after := leaves (serveProject undisturbed plainSerde aliceApi
        (aliceService.authenticateBearer id "alice-token") "p" request) nodeOfQ
      after.config.ruleIds "q" = ["rule-q".toList] ∧
        after.config.row "q" "rule-q".toList = none) := by
  refine ⟨?_, by decide +kernel, by decide +kernel, ⟨_, by rfl, ?_⟩, ⟨_, by rfl, ?_⟩⟩
  · exact aliceService_scoped
  · decide +kernel
  · decide +kernel

end TinyReverseProxy.Management
