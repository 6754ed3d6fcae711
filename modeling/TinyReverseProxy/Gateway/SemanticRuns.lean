import Mathlib.Logic.Function.Basic
import TinyReverseProxy.Gateway.SemanticEntries

/-!
# Which questions the semantic cache answers

Nodes keep entries, share a store, and start from its rows. A run is any sequence of requests,
answers from upstream and restarts, on any nodes, with settings that may change on the way. For
every entry the run records the request it was stored for.

An entry answers a request for which the tokens of the two prompts nearly agree. Tokens are ASCII
words, and the words of the roles count as well: two prompts in another script may agree in `user`
alone. The path of the request is no part of an entry. So a hit is for the same question
(`hit_for_same_question`) in runs where a model is asked on one path only, and where most tokens of
every prompt are words of its texts.
-/

namespace TinyReverseProxy.Gateway

open Lib Proxy Json Value List

/-! ## The words of a prompt -/

/-- The texts of the prompt itself, without the roles. -/
def promptTexts (json : Value) : List Text :=
  let messages := match json.get "messages" with
    | some (.arr ms) => ms.flatMap fun m => ((m.get "content").map collectValueText).getD []
    | _ => []
  ((json.get "system").map collectValueText).getD [] ++ messages ++
    ((json.get "input").map collectValueText).getD []

/-- The words of some texts, without regard to ASCII case. -/
def wordSet (alphanumeric : Char → Bool) (texts : List Text) : Finset Text :=
  ((texts.flatMap (Text.words alphanumeric)).map Text.toAsciiLower).toFinset

/-- The words that a request asks with, for a notion of alphanumeric characters. -/
def promptWords (alphanumeric : Char → Bool) (ctx : RequestContext) : Finset Text :=
  ((cachedRequestJson ctx).map fun json => wordSet alphanumeric (promptTexts json)).getD ∅

/-- Two requests to the same path that have a word in common. -/
def SameQuestion (alphanumeric : Char → Bool) (first second : RequestContext) : Prop :=
  first.path = second.path ∧
    (promptWords alphanumeric first ∩ promptWords alphanumeric second).Nonempty

/-- The request keeps to the path of its model, and less than 42.5% of its tokens are no words of
its prompt. -/
structure Worded (alphanumeric : Char → Bool) (endpoint : Text → Text → Text → Text)
    (ctx : RequestContext) (projectId providerName model : Text) (tokens : Finset Text) : Prop where
  path : ctx.path = endpoint projectId providerName model
  few : 2 * ((tokens \ promptWords alphanumeric ctx).card : Rat) < 17 / 20 * tokens.card

/-! ## Runs -/

/-- A request in flight that was not answered from the cache. -/
structure Asked where
  node : Nat
  ctx : RequestContext
  request : SemanticCacheRequestMeta

/-- An entry that was stored, for a request and its answer. -/
structure StoredAnswer where
  ctx : RequestContext
  resp : HttpResponse
  entry : SemanticCacheEntry

structure SemanticNodes where
  entries : Nat → List SemanticCacheEntry
  rows : List SemanticCacheEntry
  asked : List Asked
  /-- Everything that was ever stored. -/
  stored : List StoredAnswer

inductive SemanticAction where
  | request (node now : Nat) (brownout : Bool) (ctx : RequestContext)
  /-- The answer to a request in flight; the store may fail to write or to prune. -/
  | response (index now : Nat) (readable written pruned : Bool) (resp : HttpResponse)
  | reload (node now : Nat)

namespace SemanticNodes

def init : SemanticNodes := ⟨fun _ => [], [], [], []⟩

def act (settings : SemanticSettings) (s : SemanticNodes) : SemanticAction → SemanticNodes
  | .request node now brownout ctx =>
    match settings.question brownout ctx with
    | none => s
    | some (request, threshold) =>
      let alive := Function.update s.entries node (unexpired now (s.entries node))
      match findHit now (s.entries node) request.projectId request.providerName request.model
        request.normalizedPrompt threshold with
      | some _ => { s with entries := alive }
      | none => { s with entries := alive, asked := s.asked ++ [⟨node, ctx, request⟩] }
  | .response index now readable written pruned resp =>
    match s.asked[index]? with
    | none => s
    | some a =>
      let asked := s.asked.eraseIdx index
      match (settings.transformResponse a.request now readable resp).1 with
      | none => { s with asked := asked }
      | some e =>
        let kept := insertEntry settings.maxEntries now e (s.entries a.node)
        let rows := if written then upsertSemanticCacheEntry e s.rows else s.rows
        { entries := Function.update s.entries a.node kept
          rows := if pruned then pruneSemanticCacheEntries now settings.maxEntries rows else rows
          asked := asked
          stored := s.stored ++ [⟨a.ctx, resp, e⟩] }
  | .reload node now =>
    let loaded := getSemanticCacheEntries now settings.maxEntries s.rows
    { s with entries := Function.update s.entries node loaded }

/-- A run of actions that all meet a condition. -/
def Runs (meets : SemanticSettings → SemanticAction → Prop) : SemanticNodes →
    SemanticNodes → Prop :=
  Relation.ReflTransGen fun s s' => ∃ settings a, meets settings a ∧ s' = s.act settings a

/-- Every request that asks is worded. -/
def AsksWorded (alphanumeric : Char → Bool) (endpoint : Text → Text → Text → Text)
    (settings : SemanticSettings) : SemanticAction → Prop
  | .request _ _ brownout ctx => ∀ request threshold,
      settings.question brownout ctx = some (request, threshold) →
        Worded alphanumeric endpoint ctx request.projectId request.providerName request.model
          (tokenize request.normalizedPrompt)
  | _ => True

/-- Whatever entry answers the request was stored for some request, and for the same question
only. -/
def AnswersSameQuestion (alphanumeric : Char → Bool) (settings : SemanticSettings)
    (s : SemanticNodes) (node now : Nat) (brownout : Bool) (ctx : RequestContext) : Prop :=
  ∀ request hit, settings.question brownout ctx = some (request, 17 / 20) →
    findHit now (s.entries node) request.projectId request.providerName request.model
      request.normalizedPrompt (17 / 20) = some hit →
    (∃ a ∈ s.stored, a.entry = hit.1) ∧
      ∀ a ∈ s.stored, a.entry = hit.1 → SameQuestion alphanumeric a.ctx ctx

/-! ## What a run preserves -/

/-- Every entry and every row is one that was stored. -/
def IsStored (s : SemanticNodes) (e : SemanticCacheEntry) : Prop := ∃ a ∈ s.stored, a.entry = e

/-- All entries were stored, and each is the entry of an answer that may be. -/
structure Logged (s : SemanticNodes) : Prop where
  entries : ∀ node, ∀ e ∈ s.entries node, s.IsStored e
  rows : ∀ e ∈ s.rows, s.IsStored e
  made : ∀ a ∈ s.stored, uncacheable a.resp = false ∧
    ∃ sha256Hex request now, a.entry = entryFor sha256Hex request now a.resp

variable {s : SemanticNodes}

/-- Other entries for one node. -/
theorem Logged.update (h : s.Logged) (node : Nat) {kept : List SemanticCacheEntry}
    (hkept : ∀ e ∈ kept, s.IsStored e) :
    Logged { s with entries := Function.update s.entries node kept } := by
  refine ⟨?_, h.rows, h.made⟩
  intro node' e he
  dsimp only at he
  by_cases hnode : node' = node
  · subst hnode
    rw [Function.update_self] at he
    exact hkept e he
  · rw [Function.update_of_ne hnode] at he
    exact h.entries node' e he

variable {settings : SemanticSettings} {node now : Nat}

theorem Logged.request {brownout : Bool} {ctx : RequestContext} (h : s.Logged) :
    (s.act settings (.request node now brownout ctx)).Logged := by
  dsimp only [act]
  split
  · exact h
  have halive : ∀ e ∈ unexpired now (s.entries node), s.IsStored e :=
    fun e he => h.entries node e (mem_of_mem_unexpired he)
  have hupdated := h.update node halive
  split
  · exact hupdated
  · exact ⟨hupdated.entries, hupdated.rows, hupdated.made⟩

/-- An answer that is stored becomes its entry. -/
theorem transformResponse_entry {request : SemanticCacheRequestMeta} {readable : Bool}
    {resp : HttpResponse} {e : SemanticCacheEntry}
    (h : (settings.transformResponse request now readable resp).1 = some e) :
    uncacheable resp = false ∧ e = entryFor settings.sha256Hex request now resp := by
  unfold SemanticSettings.transformResponse at h
  split at h
  · cases h
  next hcacheable =>
  split at h
  · exact ⟨Bool.eq_false_iff.mpr hcacheable, (Option.some.inj h).symm⟩
  · cases h

/-- An answer is stored only if it may be, and then it is logged. -/
theorem Logged.response {index : Nat} {readable written pruned : Bool} {resp : HttpResponse}
    (h : s.Logged) :
    (s.act settings (.response index now readable written pruned resp)).Logged := by
  dsimp only [act]
  split
  · exact h
  next a _ =>
  split
  · exact ⟨h.entries, h.rows, h.made⟩
  next e he =>
  obtain ⟨hcacheable, hentry⟩ := transformResponse_entry he
  let logged : SemanticNodes := { s with stored := s.stored ++ [⟨a.ctx, resp, e⟩] }
  -- with the new answer in the log, whatever was logged before still is
  have hgrows : ∀ e', (e' = e ∨ s.IsStored e') → logged.IsStored e' := by
    rintro e' (rfl | ⟨b, hb, rfl⟩)
    · exact ⟨⟨a.ctx, resp, e'⟩, mem_append_right _ mem_cons_self, rfl⟩
    · exact ⟨b, mem_append_left _ hb, rfl⟩
  have hlogged : logged.Logged := by
    refine ⟨fun node e' he' => hgrows e' (.inr (h.entries node e' he')),
      fun e' he' => hgrows e' (.inr (h.rows e' he')), ?_⟩
    intro b hb
    rcases mem_append.mp hb with hold | hnew
    · exact h.made b hold
    · cases mem_singleton.mp hnew
      exact ⟨hcacheable, settings.sha256Hex, a.request, now, hentry⟩
  have hinserted : ∀ e' ∈ insertEntry settings.maxEntries now e (s.entries a.node),
      logged.IsStored e' :=
    fun e' he' => hgrows e' ((mem_insertEntry he').imp_right (h.entries a.node e'))
  have hkept := hlogged.update a.node hinserted
  refine ⟨hkept.entries, ?_, hkept.made⟩
  have hrows : ∀ e' ∈ (if written then upsertSemanticCacheEntry e s.rows else s.rows),
      logged.IsStored e' := by
    intro e' he'
    split at he'
    · exact hgrows e' ((mem_upsertSemanticCacheEntry he').imp_right (h.rows e'))
    · exact hgrows e' (.inr (h.rows e' he'))
  intro e' he'
  split at he'
  · exact hrows e' (mem_of_mem_unexpired (mem_of_mem_keepNewest he'))
  · exact hrows e' he'

theorem Logged.reload (h : s.Logged) : (s.act settings (.reload node now)).Logged := by
  refine h.update node fun e he => h.rows e ?_
  exact mem_of_mem_unexpired (mem_mergeSort.mp (mem_of_mem_take he))

theorem logged_of_runs {meets : SemanticSettings → SemanticAction → Prop} (h : Runs meets init s) :
    s.Logged := by
  have hinit : init.Logged :=
    ⟨fun _ _ he => absurd he not_mem_nil, fun _ he => absurd he not_mem_nil,
      fun _ ha => absurd ha not_mem_nil⟩
  refine run_preserves ?_ h hinit
  rintro s s' ⟨settings, a, _, rfl⟩ hlogged
  cases a with
  | request node now brownout ctx => exact hlogged.request
  | response index now readable written pruned resp => exact hlogged.response
  | reload node now => exact hlogged.reload

/-- What is found was stored. -/
theorem Logged.found (h : s.Logged) {projectId providerName model
    prompt : Text} {threshold : Rat} {hit : SemanticCacheEntry × Rat}
    (hhit : findHit now (s.entries node) projectId providerName model prompt threshold = some hit) :
    s.IsStored hit.1 :=
  h.entries node hit.1 (mem_of_mem_unexpired (findHit_some hhit).1)

section Tracking

variable {alphanumeric : Char → Bool} {endpoint : Text → Text → Text → Text}

/-- Everything in flight and everything stored is worded. -/
structure Tracked (alphanumeric : Char → Bool) (endpoint : Text → Text → Text → Text)
    (s : SemanticNodes) : Prop where
  asked : ∀ a ∈ s.asked, Worded alphanumeric endpoint a.ctx a.request.projectId
    a.request.providerName a.request.model (tokenize a.request.normalizedPrompt)
  stored : ∀ a ∈ s.stored, Worded alphanumeric endpoint a.ctx a.entry.projectId a.entry.providerName
    a.entry.model a.entry.tokens

variable {s : SemanticNodes}

theorem Tracked.request {settings : SemanticSettings} {node now : Nat} {brownout : Bool}
    {ctx : RequestContext} (h : Tracked alphanumeric endpoint s)
    (hworded : AsksWorded alphanumeric endpoint settings (.request node now brownout ctx)) :
    Tracked alphanumeric endpoint (s.act settings (.request node now brownout ctx)) := by
  dsimp only [act]
  split
  · exact h
  next request threshold hquestion =>
  split
  · exact ⟨h.asked, h.stored⟩
  · refine ⟨?_, h.stored⟩
    intro a ha
    rcases mem_append.mp ha with hold | hnew
    · exact h.asked a hold
    · cases mem_singleton.mp hnew
      exact hworded request threshold hquestion

/-- The entry has the tokens of what was asked. -/
theorem Tracked.response {settings : SemanticSettings} {index now : Nat}
    {readable written pruned : Bool} {resp : HttpResponse} (h : Tracked alphanumeric endpoint s) :
    Tracked alphanumeric endpoint
      (s.act settings (.response index now readable written pruned resp)) := by
  dsimp only [act]
  split
  · exact h
  next a ha =>
  have hasked : ∀ b ∈ s.asked.eraseIdx index, Worded alphanumeric endpoint b.ctx b.request.projectId
      b.request.providerName b.request.model (tokenize b.request.normalizedPrompt) :=
    fun b hb => h.asked b (mem_of_mem_eraseIdx hb)
  split
  · exact ⟨hasked, h.stored⟩
  next e he =>
  refine ⟨hasked, ?_⟩
  intro b hb
  rcases mem_append.mp hb with hold | hnew
  · exact h.stored b hold
  · cases mem_singleton.mp hnew
    have hworded := h.asked a (mem_of_getElem? ha)
    rw [(transformResponse_entry he).2]
    exact hworded

theorem tracked_of_runs (h : Runs (AsksWorded alphanumeric endpoint) init s) :
    Tracked alphanumeric endpoint s := by
  have hinit : Tracked alphanumeric endpoint init :=
    ⟨fun _ ha => absurd ha not_mem_nil, fun _ ha => absurd ha not_mem_nil⟩
  refine run_preserves ?_ h hinit
  rintro s s' ⟨settings, a, hmeets, rfl⟩ htracked
  cases a with
  | request node now brownout ctx => exact htracked.request hmeets
  | response index now readable written pruned resp => exact htracked.response
  | reload node now => exact ⟨htracked.asked, htracked.stored⟩

/-- Two worded requests whose tokens nearly agree have a word in common. -/
theorem sameQuestion_of_similar {first second : RequestContext}
    {projectId providerName model : Text} {tokens tokens' : Finset Text}
    (hfirst : Worded alphanumeric endpoint first projectId providerName model tokens)
    (hsecond : Worded alphanumeric endpoint second projectId providerName model tokens')
    (h : 17 / 20 ≤ jaccardSimilarity tokens' tokens) : SameQuestion alphanumeric first second := by
  refine ⟨hfirst.path.trans hsecond.path.symm, ?_⟩
  obtain ⟨w, hw, hnotSecond, hnotFirst⟩ :=
    exists_common (overlap_of_jaccardSimilarity h) hsecond.few hfirst.few
  obtain ⟨hw', hw⟩ := Finset.mem_inter.mp hw
  -- a token that is not left out is a word
  have hword : ∀ {ctx : RequestContext} {ts : Finset Text}, w ∈ ts →
      w ∉ ts \ promptWords alphanumeric ctx → w ∈ promptWords alphanumeric ctx := by
    intro ctx ts hin hout
    by_contra hnot
    exact hout (Finset.mem_sdiff.mpr ⟨hin, hnot⟩)
  exact ⟨w, Finset.mem_inter.mpr ⟨hword hw hnotFirst, hword hw' hnotSecond⟩⟩

end Tracking

/-- In a run whose requests are all worded, a worded request is answered for the same question. -/
theorem hit_for_same_question (alphanumeric : Char → Bool) (endpoint : Text → Text → Text → Text)
    (settings : SemanticSettings) (s : SemanticNodes)
    (hrun : Runs (AsksWorded alphanumeric endpoint) init s) (node now : Nat) (brownout : Bool)
    (ctx : RequestContext)
    (hctx : AsksWorded alphanumeric endpoint settings (.request node now brownout ctx)) :
    s.AnswersSameQuestion alphanumeric settings node now brownout ctx := by
  intro request hit hquestion hhit
  refine ⟨(logged_of_runs hrun).found hhit, ?_⟩
  intro a ha hentry
  obtain ⟨hproject, hprovider, hmodel, hsimilar⟩ := similarEntry_some (findHit_some hhit).2
  have hworded := (tracked_of_runs hrun).stored a ha
  rw [hentry, hproject, hprovider, hmodel] at hworded
  exact sameQuestion_of_similar hworded (hctx request _ hquestion) hsimilar

/-! ## Other questions that are answered -/

/-- The default settings, with the cache on for every project. -/
def defaultSettings : SemanticSettings where
  policy _ := some ⟨some true, none, none⟩
  defaultTtlSecs := 300
  defaultSimilarityThreshold := 17 / 20
  maxEntries := 1024
  asF64 _ := 17 / 20
  sha256Hex t := t
  showSimilarity _ := "1.000"

/-- ASCII letters and digits, and the unified ideographs. -/
def withIdeographs (c : Char) : Bool :=
  c.isAlphanum || (0x4E00 ≤ c.toNat && c.toNat ≤ 0x9FFF)

def userMessage (content : String) : Value :=
  .obj [("messages", .arr [.obj [("content", .str content.toList),
    ("role", .str "user")]]), ("model", .str "gpt-4")]

/-- A chat with one message, sent to a path with a managed key. -/
def userRequest (path content : String) : RequestContext where
  method := "POST"
  path := path.toList
  query := none
  headers := []
  body := some (userMessage content).print
  selectedUpstream := none
  auth := none
  cachedRequestJson := some (userMessage content)
  virtualKey := some ⟨"hash", "project", "openai"⟩
  providerCandidates := none

def plainAnswer : HttpResponse := ⟨200, [], "answer"⟩

/-- A request was sent on and came back with an answer. -/
def afterResponse (first : RequestContext) (resp : HttpResponse) : SemanticNodes :=
  (init.act defaultSettings (.request 0 0 false first)).act defaultSettings
    (.response 0 0 true true true resp)

def afterAnswer (first : RequestContext) : SemanticNodes := afterResponse first plainAnswer

/-- What a request with one message asks. -/
def userQuestion (content : String) : SemanticCacheRequestMeta where
  projectId := "project"
  providerName := "openai"
  model := "gpt-4"
  normalizedPrompt := normalizePrompt ("user\n" ++ content.toList)
  promptTokens := (userMessage content).print.byteLength / 4
  ttlSecs := 300

/-- A hit for a request that is not the same question. -/
theorem not_answersSameQuestion {first second : RequestContext} (request : SemanticCacheRequestMeta)
    (e : SemanticCacheEntry) (hstored : (afterAnswer first).stored = [⟨first, plainAnswer, e⟩])
    (hquestion : defaultSettings.question false second = some (request, 17 / 20))
    (hhit : findHit 1 ((afterAnswer first).entries 0) request.projectId request.providerName
      request.model request.normalizedPrompt (17 / 20) = some (e, 1))
    (hother : ¬ SameQuestion withIdeographs first second) :
    ¬ (afterAnswer first).AnswersSameQuestion withIdeographs defaultSettings 0 1 false second := by
  intro h
  obtain ⟨_, hall⟩ := h request (e, 1) hquestion hhit
  have hlogged : ⟨first, plainAnswer, e⟩ ∈ (afterAnswer first).stored := by
    rw [hstored]
    exact mem_cons_self
  exact hother (hall _ hlogged rfl)

def userEntry (content : String) : SemanticCacheEntry :=
  entryFor defaultSettings.sha256Hex (userQuestion content) 0 plainAnswer

/-- Two questions in Chinese, and one question on two paths. -/
theorem other_question_answered :
    ¬ (afterAnswer (userRequest "/v1/chat/completions" "天气")).AnswersSameQuestion withIdeographs
        defaultSettings 0 1 false (userRequest "/v1/chat/completions" "密码") ∧
      ¬ (afterAnswer (userRequest "/v1/chat/completions" "hello")).AnswersSameQuestion
        withIdeographs
        defaultSettings 0 1 false (userRequest "/v1/completions" "hello") := by
  constructor
  · refine not_answersSameQuestion (userQuestion "密码") (userEntry "天气") rfl
      (by decide +kernel) (by decide +kernel) ?_
    rintro ⟨_, hword⟩
    revert hword
    decide +kernel
  · refine not_answersSameQuestion (userQuestion "hello") (userEntry "hello") rfl
      (by decide +kernel) (by decide +kernel) ?_
    rintro ⟨hpath, _⟩
    revert hpath
    decide

theorem userRequest_worded {content : String}
    (hquestion : defaultSettings.question false (userRequest "/v1/chat/completions" content) =
      some (userQuestion content, 17 / 20))
    (hfew : 2 * ((tokenize (userQuestion content).normalizedPrompt \
      promptWords withIdeographs (userRequest "/v1/chat/completions" content)).card : Rat) <
        17 / 20 * (tokenize (userQuestion content).normalizedPrompt).card) :
    AsksWorded withIdeographs (fun _ _ _ => "/v1/chat/completions") defaultSettings
      (.request node now false (userRequest "/v1/chat/completions" content)) := by
  intro request threshold h
  cases hquestion.symm.trans h
  exact ⟨rfl, hfew⟩

/-- `reset password` is answered by the entry for `password reset`. -/
theorem hit_for_same_question_reset :
    (findHit 1 ((afterAnswer (userRequest "/v1/chat/completions" "password reset")).entries 0)
        "project" "openai" "gpt-4" "user reset password"
        (17 / 20)).isSome = true ∧
      (afterAnswer (userRequest "/v1/chat/completions" "password reset")).AnswersSameQuestion
        withIdeographs defaultSettings 0 1 false
        (userRequest "/v1/chat/completions" "reset password") := by
  refine ⟨by decide +kernel, hit_for_same_question withIdeographs
    (fun _ _ _ => "/v1/chat/completions") defaultSettings _ ?_ 0 1 false _
    (userRequest_worded (by decide +kernel) (by decide +kernel))⟩
  refine .tail (.single ⟨defaultSettings, .request 0 0 false
    (userRequest "/v1/chat/completions" "password reset"), ?_, rfl⟩)
    ⟨defaultSettings, .response 0 0 true true true plainAnswer, trivial, rfl⟩
  exact userRequest_worded (by decide +kernel) (by decide +kernel)

end SemanticNodes

end TinyReverseProxy.Gateway
