import TinyReverseProxy.Lib.Control
import TinyReverseProxy.Lib.Text

/-!
# The state of an MCP server

The tool runtime keeps an entry for each MCP server: whether an operator has disabled it, its
session and its tokens. Updates under the lock are atomic, but an operation that waits for the
network in between is two of them, with updates of other operations in between.

A discovery looks at the entry again before it writes, and so does a tool call that opens a new
session. A session reset writes the copy back that it made before it waited (`reset_undoes`): what
changed in the meantime is lost, also the token that the reset itself has fetched. As long as nobody
disables the server and no token arrives during a reset, nothing is lost (`operator_state_kept`).
-/

namespace TinyReverseProxy.Gateway

open Lib List

/-! ## The entry -/

structure McpServerInventory where
  operatorEnabled : Bool
  operatorStateReason : Option Text
  protocolVersion : Option Text
  sessionId : Option Text
  authCachedAccessToken : Option Text
  authCachedRefreshToken : Option Text

namespace McpServerInventory

def default : McpServerInventory := ⟨true, none, none, none, none, none⟩

/-- What a discovery finds: the version and the session, or nothing. -/
def discovered (session : Option (Text × Option Text)) : McpServerInventory :=
  { default with protocolVersion := session.map (·.1), sessionId := session.bind (·.2) }

/-- The entry that a reset writes. -/
def cleared (current : McpServerInventory) : McpServerInventory :=
  { current with protocolVersion := none, sessionId := none }

end McpServerInventory

def mergeMcpServerInventory (previous : Option McpServerInventory) (next : McpServerInventory) :
    McpServerInventory :=
  match previous with
  | none => next
  | some previous =>
    { next with
      operatorEnabled := previous.operatorEnabled
      operatorStateReason := next.operatorStateReason.or previous.operatorStateReason
      authCachedAccessToken := next.authCachedAccessToken.or previous.authCachedAccessToken
      authCachedRefreshToken := next.authCachedRefreshToken.or previous.authCachedRefreshToken }

structure McpOAuthToken where
  accessToken : Text
  refreshToken : Option Text

/-- An operation that waits for the network. -/
inductive McpTask
  /-- `refresh_mcp_server` or `ensure_mcp_server_ready`, with the entry as it was. -/
  | discovering (previous : Option McpServerInventory)
  /-- `reset_mcp_server_session`, with its copy of the entry. -/
  | resetting (current : McpServerInventory)

structure McpServer where
  entry : Option McpServerInventory
  tasks : List McpTask
  /-- The server was disabled and not enabled since. -/
  disabled : Bool
  /-- The access and the refresh token of the latest exchange; one that gives no refresh token
  leaves the old one valid. -/
  latest : Option Text × Option Text

inductive McpAction
  | disable (reason : Option Text)
  | enable (reason : Option Text)
  /-- `record_mcp_auth_refresh`, at the end of an exchange that any operation has made. -/
  | authRefresh (token : McpOAuthToken)
  /-- Another update of the entry, such as the counters of a tool call. -/
  | record
  | refresh
  | ensureReady
  | discovered (task : Nat) (session : Option (Text × Option Text))
  /-- A tool call has opened a new session. -/
  | reinitialized (session : Text × Option Text)
  | reset (http : Bool)
  /-- The session is deleted or gone, or else the request for that has failed. -/
  | resetDone (task : Nat) (gone : Bool)

namespace McpServer

def start : McpServer := ⟨none, [], false, none, none⟩

/-- The entry, as an update finds it. -/
def known (s : McpServer) : McpServerInventory := s.entry.getD .default

def act (s : McpServer) : McpAction → McpServer
  | .disable reason =>
    { s with
      entry := some { s.known with operatorEnabled := false, operatorStateReason := reason }
      disabled := true }
  | .enable reason =>
    { s with
      entry := some { s.known with operatorEnabled := true, operatorStateReason := reason }
      disabled := false }
  | .authRefresh token =>
    { s with
      entry := some { s.known with
        authCachedAccessToken := some token.accessToken
        authCachedRefreshToken := token.refreshToken.or s.known.authCachedRefreshToken }
      latest := (some token.accessToken, token.refreshToken.or s.latest.2) }
  | .record => { s with entry := some s.known }
  | .refresh => { s with tasks := .discovering s.entry :: s.tasks }
  | .ensureReady =>
    if s.known.protocolVersion.isSome then s
    else { s with tasks := .discovering (some s.known) :: s.tasks }
  | .discovered task session =>
    match s.tasks[task]? with
    | some (.discovering previous) =>
      { s with
        entry := some (mergeMcpServerInventory (s.entry.or previous) (.discovered session))
        tasks := s.tasks.eraseIdx task }
    | _ => s
  | .reinitialized session =>
    { s with entry := some (mergeMcpServerInventory s.entry (.discovered (some session))) }
  | .reset http =>
    if http && s.known.sessionId.isSome then { s with tasks := .resetting s.known :: s.tasks }
    else { s with entry := some s.known.cleared }
  | .resetDone task gone =>
    match s.tasks[task]? with
    | some (.resetting current) =>
      { s with
        entry := some (if gone then current.cleared else s.known)
        tasks := s.tasks.eraseIdx task }
    | _ => s

/-- What a tool call is told that finds the server disabled. -/
def mcpServerDisabledMessage (serverName : Text) (s : McpServer) : Option Text :=
  s.entry.bind fun state =>
    if state.operatorEnabled then none
    else
      let message := "MCP server '" ++ serverName ++ "' is disabled by operator"
      match state.operatorStateReason with
      | some (c :: reason) => some (message ++ ": " ++ c :: reason)
      | _ => some message

/-! ## What is kept -/

/-- An entry that has the operator's last word and the latest tokens. -/
structure Right (s : McpServer) (e : McpServerInventory) : Prop where
  operator : s.disabled = true → e.operatorEnabled = false
  tokens : (e.authCachedAccessToken, e.authCachedRefreshToken) = s.latest

/-- What a task may write: a reset its copy, a discovery the entry it found if there still is
none. -/
def Fits (s : McpServer) : McpTask → Prop
  | .discovering previous => s.entry = none → ∀ e ∈ previous, s.Right e
  | .resetting current => s.Right current

structure Kept (s : McpServer) : Prop where
  known : s.Right s.known
  tasks : ∀ task ∈ s.tasks, s.Fits task

/-- Nobody disables the server, and no token arrives, while a reset waits. -/
def Undisturbed (s : McpServer) : McpAction → Prop
  | .disable _ => ∀ current, .resetting current ∉ s.tasks
  | .authRefresh _ => ∀ current, .resetting current ∉ s.tasks
  | _ => True

variable {s : McpServer}

theorem Right.merge {previous : Option McpServerInventory} (h : s.Right (previous.getD .default))
    (session : Option (Text × Option Text)) :
    s.Right (mergeMcpServerInventory previous (.discovered session)) := by
  cases previous with
  | none | some => exact ⟨h.operator, h.tokens⟩

/-- The entry is written, by a task that ends or without one. -/
theorem Kept.put (h : s.Kept) {e : McpServerInventory} (he : s.Right e) {tasks : List McpTask}
    (hsub : tasks ⊆ s.tasks) : Kept { s with entry := some e, tasks } := by
  refine ⟨⟨he.operator, he.tokens⟩, fun task htask => ?_⟩
  have hfits := h.tasks task (hsub htask)
  cases task with
  | discovering previous =>
    intro hnone
    cases hnone
  | resetting current => exact ⟨hfits.operator, hfits.tokens⟩

theorem Kept.push (h : s.Kept) {task : McpTask} (htask : s.Fits task) :
    Kept { s with tasks := task :: s.tasks } := by
  refine ⟨⟨h.known.operator, h.known.tokens⟩, fun task' htask' => ?_⟩
  have hfits : s.Fits task' := by
    rcases mem_cons.mp htask' with rfl | hold
    · exact htask
    · exact h.tasks task' hold
  cases task' with
  | discovering previous =>
    intro hnone e he
    exact ⟨(hfits hnone e he).operator, (hfits hnone e he).tokens⟩
  | resetting current => exact ⟨hfits.operator, hfits.tokens⟩

/-- The operator or an exchange has its say: only a reset could still write something else. -/
theorem kept_of_entry {e : McpServerInventory} (hentry : s.entry = some e) (he : s.Right e)
    (htasks : ∀ current, .resetting current ∈ s.tasks → s.Right current) : s.Kept := by
  refine ⟨?_, fun task htask => ?_⟩
  · rw [known, hentry]
    exact he
  · cases task with
    | discovering previous =>
      intro hnone
      rw [hentry] at hnone
      cases hnone
    | resetting current => exact htasks current htask

/-- No undisturbed action loses what the operator and the token exchange have left. -/
theorem Kept.act (h : s.Kept) {a : McpAction} (ha : s.Undisturbed a) : (s.act a).Kept := by
  cases a with
  -- what is written here is newer than what a waiting reset has read, so none may wait
  | disable reason =>
    exact kept_of_entry rfl ⟨fun _ => rfl, h.known.tokens⟩ fun current hmem =>
      absurd hmem (ha current)
  | enable reason =>
    refine kept_of_entry rfl ⟨fun hdisabled => ?_, h.known.tokens⟩ fun current hmem =>
      ⟨fun hdisabled => ?_, (h.tasks _ hmem).tokens⟩
    · cases hdisabled
    · cases hdisabled
  | authRefresh token =>
    refine kept_of_entry rfl ⟨h.known.operator, ?_⟩ fun current hmem => absurd hmem (ha current)
    show (some token.accessToken, token.refreshToken.or s.known.authCachedRefreshToken) =
      (some token.accessToken, token.refreshToken.or s.latest.2)
    rw [← h.known.tokens]
  | record => exact h.put h.known (Subset.refl _)
  -- a task is started with what is known now
  | refresh =>
    refine h.push fun hnone e he => ?_
    rw [hnone] at he
    cases he
  | ensureReady =>
    rw [McpServer.act]
    split
    · exact h
    · refine h.push fun _ e he => ?_
      cases he
      exact h.known
  | discovered task session =>
    rw [McpServer.act]
    split
    · next previous htask =>
      refine h.put (.merge ?_ session) (eraseIdx_subset ..)
      have hfits := h.tasks _ (mem_of_getElem? htask)
      -- the answer is merged into the entry, or into what the task began with
      cases hentry : s.entry with
      | some e =>
        have hknown := h.known
        rw [McpServer.known, hentry] at hknown
        exact hknown
      | none =>
        cases previous with
        | some e => exact hfits hentry e rfl
        | none =>
          have hknown := h.known
          rw [McpServer.known, hentry] at hknown
          exact hknown
    · exact h
  | reinitialized session => exact h.put (Right.merge h.known _) (Subset.refl _)
  | reset http =>
    rw [McpServer.act]
    split
    · exact h.push h.known
    · have hcleared : s.Right s.known.cleared := ⟨h.known.operator, h.known.tokens⟩
      exact h.put hcleared (Subset.refl _)
  -- what the reset has read is still right, so it may be written back
  | resetDone task gone =>
    rw [McpServer.act]
    split
    · next current htask =>
      have hcurrent : s.Right current := h.tasks _ (mem_of_getElem? htask)
      refine h.put ?_ (eraseIdx_subset ..)
      cases gone with
      | true => exact ⟨hcurrent.operator, hcurrent.tokens⟩
      | false => exact h.known
    · exact h

/-- In runs where nobody disables the server and no token arrives while a reset waits, a server that
was disabled stays so until it is enabled, no tool call gets past the check meanwhile, and the
tokens are those of the latest exchange. -/
theorem operator_state_kept (serverName : Text)
    (h : Relation.ReflTransGen (fun s s' : McpServer => ∃ a, s.Undisturbed a ∧
      s.act a = s') .start s) :
    (s.disabled = true → s.known.operatorEnabled = false ∧
      (s.mcpServerDisabledMessage serverName).isSome = true) ∧
    (s.known.authCachedAccessToken, s.known.authCachedRefreshToken) = s.latest := by
  have hkept : s.Kept := by
    refine run_preserves ?_ h ⟨⟨fun hdisabled => ?_, rfl⟩, forall_mem_nil _⟩
    · rintro s s' ⟨a, ha, rfl⟩ hs
      exact hs.act ha
    · cases hdisabled
  refine ⟨fun hdisabled => ?_, hkept.known.tokens⟩
  have henabled := hkept.known.operator hdisabled
  refine ⟨henabled, ?_⟩
  cases hentry : s.entry with
  | none =>
    rw [known, hentry] at henabled
    cases henabled
  | some state =>
    rw [known, hentry] at henabled
    have hoff : state.operatorEnabled = false := henabled
    rw [mcpServerDisabledMessage, hentry, Option.bind_some, hoff, if_neg Bool.false_ne_true]
    split <;> rfl

theorem operator_state_kept_after_reset :
    ∃ s : McpServer, s.disabled = true ∧ s.known.operatorEnabled = false ∧
      (s.known.authCachedAccessToken, s.known.authCachedRefreshToken) = (some ['t'], none) := by
  have hkept := operator_state_kept [] ((((Relation.ReflTransGen.refl.tail
    ⟨.reinitialized (['v'], some ['s']), trivial, rfl⟩).tail
    ⟨.authRefresh ⟨['t'], none⟩, fun _ => not_mem_nil, rfl⟩).tail
    ⟨.disable none, fun _ => not_mem_nil, rfl⟩).tail
    ⟨.reset true, trivial, rfl⟩ |>.tail ⟨.resetDone 0 true, trivial, rfl⟩)
  exact ⟨_, rfl, (hkept.1 rfl).1, hkept.2⟩

/-- A reset that waits while a token arrives and the server is disabled: afterwards the server is
enabled, tool calls get through, and the token is gone. -/
theorem reset_undoes : ∃ s : McpServer,
    s = [.reinitialized (['v'], some ['s']), .reset true, .authRefresh ⟨['t'], some ['r']⟩,
      .disable none, .resetDone 0 true].foldl act .start ∧
    s.disabled = true ∧ s.known.operatorEnabled = true ∧ s.mcpServerDisabledMessage [] = none ∧
    s.latest = (some ['t'], some ['r']) ∧ s.known.authCachedAccessToken = none ∧
    s.known.authCachedRefreshToken = none :=
  ⟨_, rfl, rfl, rfl, rfl, rfl, rfl, rfl⟩

end McpServer

end TinyReverseProxy.Gateway
