import TinyReverseProxy.Gateway.ToolAnswers
import TinyReverseProxy.Management.Holdings

/-!
# Tools offered and tools executed

A request with `trp_tools` asks for the tools of its project. The plugin picks them, writes their
definitions beside the client's own tools and keeps the picked ones for the answer
(`ToolRuntimeRequest`). Body and picked tools agree when the plugin is done (`onRequest_offers`).

Three things can still come between them. Names that are given twice are picked twice; a list
without a name in it, because it is empty or because its entries are no strings, picks every tool;
and a later plugin that prints the cached copy of the body, which this plugin does not touch, takes
the definitions out again. `offered_are_executed` is about the requests without these.
-/

namespace TinyReverseProxy.Gateway

open Lib Proxy Json Value List
open Management (ProjectToolRecord GovernanceState)

/-! ## The plugin's data -/

inductive ToolApprovalMode where
  | allowAll
  | denyAll
  | allowList
  deriving DecidableEq

/-- What a managed key says about tools. -/
structure ToolPolicy where
  approvalMode : ToolApprovalMode
  allowedTools : Option (List Text)

/-- The tools of a project, one a name. -/
structure ToolRegistry where
  records : List ProjectToolRecord
  distinct : (records.map (·.toolName)).Nodup

/-- The tools that a project has in memory. -/
def ToolRegistry.ofMemory (g : GovernanceState) (p : String) (h : g.Tidy p) : ToolRegistry where
  records := g.projectTools.records p
  distinct := h.tools.distinct

structure ToolProvider where
  supportsManagedTools : Bool
  managedToolRequestShapeForPath : Text → Option ManagedToolRequestShape

inductive ResponsesStreamMode where
  | strict
  | composed
  deriving DecidableEq

/-- The order in which a hash map gives its values is not known. -/
structure HashOrder where
  order : List ProjectToolRecord → List ProjectToolRecord
  perm : ∀ records, (order records).Perm records

structure OptInTools where
  enabled : Bool
  names : Option (List Text)

/-- What the plugin keeps for the answer. -/
structure ToolRuntimeRequest where
  providerName : Text
  requestShape : ManagedToolRequestShape
  projectId : Text
  requestJson : Value
  selectedTools : AList fun _ : Text => ProjectToolRecord
  allowedToolNames : Option (List Text)
  stream : Bool

structure ToolRuntime where
  providers : AList fun _ : Text => ToolProvider
  registry : Text → ToolRegistry
  responsesStreamMode : ResponsesStreamMode
  /-- What `serde_json` says about a text that is no JSON. -/
  serdeError : Text → Text
  hashOrder : HashOrder

namespace ToolRuntime

def jsonError (status : Nat) (message : Text) : HttpResponse where
  status := status
  headers := [jsonContentType]
  body := (objectOf [("error", objectOf [strMember "message" message])]).print

/-! ## Selection -/

def optInKey : Text := "trp_tools"

/-- The names among the entries; what is no string is passed over. -/
def namesOf (values : List Value) : List Text := values.filterMap asStr

def extractNames : Option Value → Except Text (Option (List Text))
  | some (.arr values) => .ok (some (namesOf values))
  | some .null | none => .ok none
  | some _ => .error "trp_tools.names must be an array of strings"

/-- The option, and the body without it. -/
def extractOptIn : Value → Except Text (Option (OptInTools × Value))
  | .obj members =>
    match members.lookup optInKey with
    | none => .ok none
    | some (.obj optIn) =>
      (extractNames (optIn.lookup "names".toList)).map fun names =>
        some (⟨((optIn.lookup "enabled".toList).bind asBool).getD true, names⟩,
          .obj (removeMember optInKey members))
    | some _ => .error "trp_tools must be an object"
  | _ => .ok none

def isApproved (policy : ToolPolicy) (name : Text) : Bool :=
  match policy.approvalMode with
  | .allowAll => true
  | .denyAll => false
  | .allowList => policy.allowedTools.any (·.contains name)

/-- A later tool replaces an earlier one of the same name. -/
def byName (tools : List ProjectToolRecord) : AList fun _ : Text => ProjectToolRecord :=
  tools.foldl (fun table tool => table.insert tool.toolName tool) ∅

def enabledTools (tools : List ProjectToolRecord) : AList fun _ : Text => ProjectToolRecord :=
  byName (tools.filter (·.enabled))

def quotedName (name : Text) : Text := "'" ++ name ++ "'"

def selectNamed (enabled : AList fun _ : Text => ProjectToolRecord)
    (policy : ToolPolicy) (name : Text) :
    Except Text ProjectToolRecord :=
  match enabled.lookup name with
  | none => .error ("tool " ++ quotedName name ++ " is not enabled for this project")
  | some tool =>
    if isApproved policy name then .ok tool
    else .error ("tool " ++ quotedName name ++ " is not approved by runtime policy")

def noTools : ToolApprovalMode → Text
  | .allowAll => "no enabled project tools are registered"
  | .denyAll => "managed tools are disabled by runtime policy"
  | .allowList => "no approved project tools are available for this runtime policy"

def selectTools (hashOrder : HashOrder) (tools : List ProjectToolRecord)
    (requested : Option (List Text)) (policy : ToolPolicy) : Except Text (List ProjectToolRecord) :=
  if policy.approvalMode = .denyAll then
    .error "managed tools are disabled by runtime policy"
  else
    let enabled := enabledTools tools
    match requested with
    | some (name :: names) => (name :: names).mapM (selectNamed enabled policy)
    | _ =>
      let selected := (hashOrder.order (enabled.entries.map (·.2))).filter
        fun tool => isApproved policy tool.toolName
      if selected = [] then .error (noTools policy.approvalMode) else .ok selected

/-! ## Definitions -/

/-- How a shape writes tools. -/
structure ToolWriting where
  nameOf : Value → Option Text
  /-- What is said about a client's tool without a name. -/
  missing : String
  define : ProjectToolRecord → Value → Value

def descriptionOf (tool : ProjectToolRecord) : Value :=
  match tool.description with
  | some description => .str description
  | none => .null

def openaiChatWriting : ToolWriting where
  nameOf tool := ((tool.get "function").bind (·.get "name")).bind asStr
  missing := "OpenAI tools must use function.name"
  define tool inputSchema := objectOf [strMember "type" "function", ("function",
    objectOf [strMember "name" tool.toolName, ("description", descriptionOf tool),
      ("parameters", inputSchema)])]

def openaiResponsesWriting : ToolWriting where
  nameOf tool := (tool.get "name").bind asStr
  missing := "OpenAI responses tools must use name"
  define tool inputSchema := objectOf [strMember "type" "function",
    strMember "name" tool.toolName, ("description", descriptionOf tool),
    ("parameters", inputSchema)]

def anthropicWriting : ToolWriting where
  nameOf tool := (tool.get "name").bind asStr
  missing := "Anthropic tools must use name"
  define tool inputSchema := objectOf [strMember "name" tool.toolName,
    ("description", descriptionOf tool), ("input_schema", inputSchema)]

def requireName (w : ToolWriting) (tool : Value) : Except Text Text :=
  match w.nameOf tool with
  | some name => .ok name
  | none => .error w.missing.toList

def extractToolNames (w : ToolWriting) (tools : List Value) : Except Text (List Text) :=
  tools.mapM (requireName w)

variable (serdeError : Text → Text)

/-- The definition of a project's tool, unless a tool of the client has its name. -/
def defineTool (w : ToolWriting) (existingNames : List Text) (tool : ProjectToolRecord) :
    Except Text Value :=
  if existingNames.contains tool.toolName then
    .error ("tool " ++ quotedName tool.toolName ++
      " conflicts with a client-supplied tool")
  else
    match readJson tool.inputSchemaJson with
    | none => .error ("invalid input_schema_json for " ++ quotedName tool.toolName ++
        ": " ++ serdeError tool.inputSchemaJson)
    | some inputSchema => .ok (w.define tool inputSchema)

def mergeTools (w : ToolWriting) (request : Value) (projectTools : List ProjectToolRecord) :
    Except Text Value :=
  match request with
  | .obj members =>
    match (members.lookup "tools".toList).getD (.arr []) with
    | .arr tools =>
      (extractToolNames w tools).bind fun existingNames =>
        (projectTools.mapM (defineTool serdeError w existingNames)).map fun definitions =>
          .obj (insertMember "tools" (.arr (tools ++ definitions)) members)
    | _ => .error "tools must be an array"
  | _ => .error "request body must be a JSON object"

def mergeOpenaiChatTools := mergeTools serdeError openaiChatWriting

def mergeOpenaiResponsesTools := mergeTools serdeError openaiResponsesWriting

def mergeAnthropicTools := mergeTools serdeError anthropicWriting

end ToolRuntime

open ToolRuntime

def ManagedToolRequestShape.writing : ManagedToolRequestShape → ToolWriting
  | openAiChatCompletions => openaiChatWriting
  | openAiResponses => openaiResponsesWriting
  | anthropicMessages => anthropicWriting

namespace ToolRuntime

/-! ## The hook -/

/-- The name in an entry of `allowed_tools`. -/
def allowedName (entry : Value) : Option Text :=
  (asStr entry).or (((entry.get "name").bind asStr).or
    (((entry.get "function").bind (·.get "name")).bind asStr))

def addName (names : List Text) (name : Text) : List Text :=
  if names.contains name then names else names ++ [name]

def parseAllowedToolsArray (value : Value) : Except Text (List Text) :=
  match asArray value with
  | none => .error "allowed_tools must be an array"
  | some tools =>
    tools.foldlM (fun names entry =>
      match allowedName entry with
      | some name => .ok (addName names name)
      | none => .error "allowed_tools entries must be strings or objects with a name") []

def extractAllowedToolNames (shape : ManagedToolRequestShape) (request : Value) :
    Except Text (Option (List Text)) :=
  match shape with
  | .openAiResponses =>
    match request.get "tool_choice" with
    | some (.obj choice) =>
      if (choice.lookup "type".toList).bind asStr = some "allowed_tools".toList then
        match choice.lookup "tools".toList with
        | none => .error "tool_choice.allowed_tools is missing tools"
        | some tools => (parseAllowedToolsArray tools).map some
      else optional request
    | _ => optional request
  | _ => .ok none
where
  optional (request : Value) : Except Text (Option (List Text)) :=
    match request.get "allowed_tools" with
    | none => .ok none
    | some tools => (parseAllowedToolsArray tools).map some

variable (rt : ToolRuntime)

def requestShapeFor (provider : ToolProvider) (path : Text) : ManagedToolRequestShape :=
  (provider.managedToolRequestShapeForPath path).getD .openAiChatCompletions

/-- The plugin writes the body itself; the cached copy stays as it is. -/
def writeBody (json : Value) (ctx : RequestContext) : RequestContext :=
  { setRequestHeader "content-length" (contentLengthValue json.print) ctx with
    body := some json.print }

/-- A request for tools, from a managed key with a provider. -/
def manage (policy : ToolPolicy) (key : VirtualKeyMeta) (provider : ToolProvider)
    (optIn : OptInTools) (json : Value) (ctx : RequestContext) :
    Except HttpResponse (RequestContext × Option ToolRuntimeRequest) := do
  let badRequest {α : Type} (result : Except Text α) : Except HttpResponse α :=
    result.mapError (jsonError 400)
  let stream := ((json.get "stream").bind asBool).getD false
  let selected ← badRequest
    (selectTools rt.hashOrder (rt.registry key.projectId).records optIn.names policy)
  let shape := requestShapeFor provider ctx.path
  if stream && shape = .openAiResponses && rt.responsesStreamMode = .strict then
    throw (jsonError 400 ("managed tools for /v1/responses streaming require " ++
      "tool_runtime.responses_stream_mode = \"composed\"").toList)
  let allowedToolNames ← badRequest (extractAllowedToolNames shape json)
  let merged ← badRequest (mergeTools rt.serdeError shape.writing json selected)
  return (writeBody merged ctx, some
    { providerName := key.providerName
      requestShape := shape
      projectId := key.projectId
      requestJson := merged
      selectedTools := byName selected
      allowedToolNames
      stream })

/-- The hook; `brownout` says that managed tools are switched off under load. -/
def onRequest (brownout : Bool) (policy : ToolPolicy) (ctx : RequestContext) :
    Except HttpResponse (RequestContext × Option ToolRuntimeRequest) :=
  if ctx.method ≠ "POST" then .ok (ctx, none)
  else if brownout then
    .error (jsonError 503 "gateway brownout active: managed tools temporarily disabled")
  else
    match ctx.body.bind readJson with
    | none => .ok (ctx, none)
    | some body =>
      match extractOptIn body with
      | .error error => .error (jsonError 400 error)
      | .ok none => .ok (ctx, none)
      | .ok (some (optIn, json)) =>
        if !optIn.enabled then .ok (ctx, none)
        else
          match ctx.virtualKey with
          | none => .error (jsonError 400 "trp_tools requires a managed runtime key")
          | some key =>
            match rt.providers.lookup key.providerName with
            | none =>
              .error (jsonError 502 "provider configuration not found for tool runtime")
            | some provider =>
              if !provider.supportsManagedTools then
                .error (jsonError 400 "provider does not support gateway-managed tools")
              else rt.manage policy key provider optIn json ctx

/-! ## What is selected -/

section Selection

theorem lookup_byName_eq (tools : List ProjectToolRecord) (name : Text) :
    (byName tools).lookup name = recordAt (·.toolName) tools.reverse name := by
  induction tools using reverseRecOn with
  | nil => rfl
  | append_singleton tools last ih =>
    rw [byName, foldl_append, reverse_append]
    show ((byName tools).insert last.toolName last).lookup name =
      recordAt (·.toolName) (last :: tools.reverse) name
    rw [recordAt_cons, ← ih]
    split
    · next hname => rw [← hname, AList.lookup_insert]
    · next hname => exact AList.lookup_insert_ne (Ne.symm hname)

variable {tool : ProjectToolRecord}

variable {tools : List ProjectToolRecord} {name : Text}

theorem mem_of_lookup_byName (h : (byName tools).lookup name = some tool) :
    tool ∈ tools ∧ tool.toolName = name := by
  rw [lookup_byName_eq] at h
  exact (recordAt_some h).imp_left mem_reverse.mp

theorem lookup_byName (h : DistinctKeys (·.toolName) tools) :
    (byName tools).lookup name = some tool ↔ tool ∈ tools ∧ tool.toolName = name := by
  rw [lookup_byName_eq, recordAt_reverse h, recordAt_eq_some_iff h]

variable {registry : ToolRegistry} {policy : ToolPolicy} {hashOrder : HashOrder}

theorem lookup_enabledTools :
    (enabledTools registry.records).lookup name = some tool ↔
      tool ∈ registry.records ∧ tool.enabled = true ∧ tool.toolName = name := by
  have hnodup : ((registry.records.filter (·.enabled)).map (·.toolName)).Nodup :=
    registry.distinct.sublist ((filter_sublist ..).map _)
  rw [enabledTools, lookup_byName hnodup, mem_filter, and_assoc]

/-- The values of a table of tools, and their names. -/
theorem mem_values {table : AList fun _ : Text => ProjectToolRecord} :
    tool ∈ table.entries.map (·.2) ↔ ∃ name, table.lookup name = some tool := by
  rw [mem_map]
  constructor
  · intro h
    obtain ⟨e, he, rfl⟩ := h
    exact ⟨e.1, AList.mem_lookup_iff.mpr he⟩
  · intro h
    obtain ⟨name, hname⟩ := h
    exact ⟨⟨name, tool⟩, AList.mem_lookup_iff.mp hname, rfl⟩

theorem nodup_names_values (tools : List ProjectToolRecord) :
    (((byName tools).entries.map (·.2)).map (·.toolName)).Nodup := by
  have hkeys : ((byName tools).entries.map (·.2)).map (·.toolName) = (byName tools).keys := by
    rw [map_map]
    refine map_congr_left ?_
    intro e he
    exact (mem_of_lookup_byName (AList.mem_lookup_iff.mpr he)).2
  rw [hkeys]
  exact (byName tools).nodupKeys

variable {selected : List ProjectToolRecord}

/-- Without names every tool that is enabled and approved is picked, once. -/
theorem selectTools_unnamed {requested : Option (List Text)}
    (hnames : requested = none ∨ requested = some [])
    (h : selectTools hashOrder registry.records requested policy = .ok selected) :
    (selected.map (·.toolName)).Nodup ∧ ∀ tool, tool ∈ selected ↔
      tool ∈ registry.records ∧ tool.enabled = true ∧ isApproved policy tool.toolName = true := by
  have heq : selected = (hashOrder.order ((enabledTools registry.records).entries.map (·.2))).filter
      fun tool => isApproved policy tool.toolName := by
    unfold selectTools at h
    split at h
    · cases h
    · rcases hnames with rfl | rfl
      all_goals
        dsimp only at h
        split at h
        · cases h
        · cases h
          rfl
  have hperm := hashOrder.perm ((enabledTools registry.records).entries.map (·.2))
  subst heq
  constructor
  -- the values of a map keyed by name have a name once, in any order
  · have hnodup := (hperm.map (·.toolName)).nodup_iff.mpr
      (nodup_names_values (registry.records.filter (·.enabled)))
    exact hnodup.sublist ((filter_sublist ..).map _)
  · intro tool
    rw [mem_filter, hperm.mem_iff, mem_values]
    constructor
    · intro hmem
      obtain ⟨⟨name, hname⟩, happroved⟩ := hmem
      obtain ⟨hrecord, henabled, -⟩ := lookup_enabledTools.mp hname
      exact ⟨hrecord, henabled, happroved⟩
    · intro hmem
      exact ⟨⟨tool.toolName, lookup_enabledTools.mpr ⟨hmem.1, hmem.2.1, rfl⟩⟩, hmem.2.2⟩

/-- With names the tools of these names are picked, in their order. -/
theorem selectTools_named {names : List Text}
    (h : selectTools hashOrder registry.records (some (name :: names)) policy = .ok selected) :
    selected.map (·.toolName) = name :: names ∧ ∀ tool ∈ selected,
      tool ∈ registry.records ∧ tool.enabled = true ∧ isApproved policy tool.toolName = true := by
  unfold selectTools at h
  split at h
  · cases h
  · have hall : Forall₂ (fun name tool => tool.toolName = name ∧ tool ∈ registry.records ∧
        tool.enabled = true ∧ isApproved policy name = true) (name :: names) selected := by
      refine (forall₂_of_mapM h).imp ?_
      intro name tool hselected
      unfold selectNamed at hselected
      split at hselected
      · cases hselected
      · next found hlookup =>
        split at hselected
        · next happroved =>
          cases hselected
          obtain ⟨hrecord, henabled, hname⟩ := lookup_enabledTools.mp hlookup
          exact ⟨hname, hrecord, henabled, happroved⟩
        · cases hselected
    refine ⟨?_, ?_⟩
    · rw [map_of_forall₂ (fun _ _ hpair => hpair.1) hall, map_id']
    · refine forall_right_of_forall₂ ?_ hall
      intro name tool hpair
      rw [hpair.1]
      exact hpair.2

end Selection

/-! ## What is written -/

/-- The definition of a tool, as a shape writes it. -/
def Defines (w : ToolWriting) (tool : ProjectToolRecord) (definition : Value) : Prop :=
  ∃ inputSchema, readJson tool.inputSchemaJson = some inputSchema ∧
    definition = w.define tool inputSchema

theorem nameOf_define (shape : ManagedToolRequestShape) (tool : ProjectToolRecord)
    (inputSchema : Value) :
    shape.writing.nameOf (shape.writing.define tool inputSchema) = some tool.toolName := by
  cases shape <;> rfl

/-- The client's own tools in a body. -/
def clientTools (body : Value) : List Value := ((body.get "tools").bind asArray).getD []

/-- A merge that succeeds puts the definitions behind the client's own tools, and no two share a
name. -/
theorem mergeTools_eq_ok {serdeError : Text → Text} {w : ToolWriting} {request merged : Value}
    {projectTools : List ProjectToolRecord}
    (h : mergeTools serdeError w request projectTools = .ok merged) :
    ∃ (members : List (Text × Value)) (definitions : List Value) (existingNames : List Text),
      request = .obj members ∧
      merged = .obj (insertMember "tools"
        (.arr (clientTools request ++ definitions)) members) ∧
      (clientTools request).map w.nameOf = existingNames.map some ∧
      Forall₂ (Defines w) projectTools definitions ∧
      ∀ tool ∈ projectTools, tool.toolName ∉ existingNames := by
  unfold mergeTools at h
  split at h
  · next members =>
    split at h
    · next tools htools =>
      obtain ⟨existingNames, hnames, h⟩ := bind_eq_ok h
      obtain ⟨definitions, hdefinitions, rfl⟩ := map_eq_ok h
      -- a body without tools has the empty list of them
      have hclient : clientTools (.obj members) = tools := by
        show ((members.lookup "tools".toList).bind asArray).getD [] = tools
        cases hlookup : members.lookup "tools".toList with
        | none | some =>
          rw [hlookup] at htools
          cases htools
          rfl
      -- a definition is refused where the client has a tool of the name
      have hdefined : Forall₂ (fun tool definition => Defines w tool definition ∧
          tool.toolName ∉ existingNames) projectTools definitions := by
        refine (forall₂_of_mapM hdefinitions).imp ?_
        intro tool definition hdefine
        unfold defineTool at hdefine
        split at hdefine
        · cases hdefine
        · next hfree =>
          split at hdefine
          · cases hdefine
          · next inputSchema hschema =>
            cases hdefine
            exact ⟨⟨inputSchema, hschema, rfl⟩, by simpa using hfree⟩
      rw [hclient]
      refine ⟨members, definitions, existingNames, rfl, rfl, ?_,
        hdefined.imp fun _ _ hpair => hpair.1, ?_⟩
      · refine map_of_forall₂ ?_ (forall₂_of_mapM hnames).flip
        intro name tool hname
        unfold requireName at hname
        split at hname
        · next found hfound =>
          cases hname
          exact hfound
        · cases hname
      · exact forall_right_of_forall₂ (fun _ _ hpair => hpair.2) hdefined.flip
    · cases h
  · cases h

theorem get_tools_insert (tools : Value) (members : List (Text × Value)) :
    (obj (insertMember "tools" tools members)).get "tools" = some tools := by
  show (insertMember _ _ members).lookup _ = _
  rw [lookup_insertMember, if_pos rfl]

/-! A body with the definitions is a value that JSON has. -/

theorem canonical_objectOf {ms : List (Text × Value)} (h : ∀ m ∈ ms, m.2.Canonical) :
    (objectOf ms).Canonical := by
  refine foldlRecOn ms _ (motive := fun acc => (obj acc).Canonical)
    ⟨Pairwise.nil, trivial⟩ ?_
  intro acc hacc m hm
  exact canonical_insert hacc (h m hm)

theorem canonical_descriptionOf (tool : ProjectToolRecord) : (descriptionOf tool).Canonical := by
  unfold descriptionOf
  split <;> trivial

theorem canonical_define (shape : ManagedToolRequestShape) (tool : ProjectToolRecord)
    {inputSchema : Value} (h : inputSchema.Canonical) :
    (shape.writing.define tool inputSchema).Canonical := by
  have hdescription := canonical_descriptionOf tool
  cases shape with
  | openAiChatCompletions =>
    refine canonical_objectOf ?_
    simp only [forall_mem_cons]
    refine ⟨trivial, canonical_objectOf ?_, by simp⟩
    simp only [forall_mem_cons]
    exact ⟨trivial, hdescription, h, by simp⟩
  | openAiResponses =>
    refine canonical_objectOf ?_
    simp only [forall_mem_cons]
    exact ⟨trivial, trivial, hdescription, h, by simp⟩
  | anthropicMessages =>
    refine canonical_objectOf ?_
    simp only [forall_mem_cons]
    exact ⟨trivial, hdescription, h, by simp⟩

/-- Tools and definitions of different names. -/
theorem nodup_names {shape : ManagedToolRequestShape} {client definitions : List Value}
    {existingNames : List Text} {selected : List ProjectToolRecord}
    (hnames : client.map shape.writing.nameOf = existingNames.map some)
    (hclient : (client.map shape.writing.nameOf).Nodup)
    (hdefines : Forall₂ (Defines shape.writing) selected definitions)
    (hselected : (selected.map (·.toolName)).Nodup)
    (hfree : ∀ tool ∈ selected, tool.toolName ∉ existingNames) :
    ((client ++ definitions).map shape.writing.nameOf).Nodup := by
  have hdefined : definitions.map shape.writing.nameOf = selected.map fun tool =>
      some tool.toolName := by
    refine map_of_forall₂ ?_ hdefines
    intro tool definition hdefine
    obtain ⟨inputSchema, -, rfl⟩ := hdefine
    exact nameOf_define shape tool inputSchema
  rw [map_append, nodup_append]
  refine ⟨hclient, ?_, ?_⟩
  · rw [hdefined]
    have hsome := hselected.map (Option.some_injective Text)
    rwa [map_map] at hsome
  · intro name hname other hother heq
    rw [hnames] at hname
    rw [hdefined] at hother
    obtain ⟨found, hfound, rfl⟩ := mem_map.mp hname
    obtain ⟨tool, htool, rfl⟩ := mem_map.mp hother
    refine hfree tool htool ?_
    rw [← Option.some.inj heq]
    exact hfound

/-! ## What the hook does -/

section Hook

variable {rt : ToolRuntime} {policy : ToolPolicy} {ctx ctx' : RequestContext}

/-- The names that a body gives. -/
def requestedNames (body : Value) : Option Value :=
  (body.get optInKey).bind (·.get "names")

/-- A body that the plugin has nothing to do with. -/
structure Settled (json : Value) : Prop where
  canonical : json.Canonical
  unasked : json.get optInKey = none

theorem settled_removeMember {members : List (Text × Value)} (h : (obj members).Canonical) :
    Settled (.obj (removeMember optInKey members)) :=
  ⟨canonical_remove optInKey h, (lookup_removeMember optInKey optInKey members).trans (if_pos rfl)⟩

variable {json : Value}

variable {optIn : OptInTools}

/-- The opt-in is taken out, and the client's tools stay. -/
theorem extractOptIn_eq_ok {body : Value} (h : extractOptIn body = .ok (some (optIn, json))) :
    extractNames (requestedNames body) = .ok optIn.names ∧ clientTools json = clientTools body ∧
      (body.Canonical → Settled json) := by
  unfold extractOptIn at h
  split at h
  · next members =>
    split at h
    · cases h
    · next option hoption =>
      obtain ⟨names, hnames, heq⟩ := map_eq_ok h
      cases heq
      have hget : (obj members).get optInKey = some (.obj option) := hoption
      have htools : (obj (removeMember optInKey members)).get "tools" =
          (obj members).get "tools" :=
        (lookup_removeMember optInKey _ members).trans (if_neg (by decide))
      refine ⟨?_, ?_, settled_removeMember⟩
      · rw [requestedNames, hget]
        exact hnames
      · rw [clientTools, htools, clientTools]
    · cases h
  · cases h

/-- A merge into a settled body leaves it settled. -/
theorem settled_of_merge {serdeError : Text → Text} {shape : ManagedToolRequestShape}
    {merged : Value} {selected : List ProjectToolRecord} (hjson : Settled json)
    (h : mergeTools serdeError shape.writing json selected = .ok merged) : Settled merged := by
  obtain ⟨members, definitions, existingNames, rfl, rfl, -, hdefines, -⟩ := mergeTools_eq_ok h
  have hclient : ∀ tool ∈ clientTools (.obj members), tool.Canonical := by
    intro tool htool
    unfold clientTools at htool
    cases hget : (obj members).get "tools" with
    | none =>
      rw [hget] at htool
      cases htool
    | some tools =>
      rw [hget] at htool
      have htools : tools.Canonical := by
        have hmem := mem_of_lookup hget
        exact canonicalMembers_iff.mp hjson.canonical.2 _ hmem
      cases tools with
      | arr items => exact canonicalItems_iff.mp htools tool htool
      | _ => cases htool
  have hdefined : ∀ definition ∈ definitions, definition.Canonical := by
    refine forall_right_of_forall₂ ?_ hdefines
    intro tool definition hdefine
    obtain ⟨inputSchema, hread, rfl⟩ := hdefine
    exact canonical_define shape tool (fits_of_parse hread).canonical
  refine ⟨canonical_insert hjson.canonical (canonicalItems_iff.mpr ?_), ?_⟩
  · intro item hitem
    rcases mem_append.mp hitem with hitem | hitem
    · exact hclient item hitem
    · exact hdefined item hitem
  · show (insertMember _ _ members).lookup optInKey = none
    rw [lookup_insertMember, if_neg (by decide)]
    exact hjson.unasked

variable {request : Option ToolRuntimeRequest}

/-- A request that asks for tools and continues. -/
theorem manage_eq_ok {key : VirtualKeyMeta} {provider : ToolProvider}
    (h : rt.manage policy key provider optIn json ctx = .ok (ctx', request)) :
    ∃ selected merged allowedToolNames shape stream,
      selectTools rt.hashOrder (rt.registry key.projectId).records optIn.names policy =
        .ok selected ∧
      mergeTools rt.serdeError shape.writing json selected = .ok merged ∧
      ctx' = writeBody merged ctx ∧
      request = some ⟨key.providerName, shape, key.projectId, merged, byName selected,
        allowedToolNames, stream⟩ := by
  obtain ⟨selected, hselected, h⟩ := bind_eq_ok h
  dsimp only at h
  split at h
  · cases h
  · obtain ⟨allowedToolNames, _, h⟩ := bind_eq_ok h
    obtain ⟨merged, hmerged, h⟩ := bind_eq_ok h
    cases h
    exact ⟨selected, merged, allowedToolNames, _, _, mapError_eq_ok hselected,
      mapError_eq_ok hmerged, rfl, rfl⟩

variable {brownout : Bool}

/-- How a request comes to be managed. -/
theorem onRequest_eq_ok {request : ToolRuntimeRequest}
    (h : rt.onRequest brownout policy ctx = .ok (ctx', some request)) :
    ∃ body optIn json key provider, ctx.body.bind readJson = some body ∧
      extractOptIn body = .ok (some (optIn, json)) ∧ ctx.virtualKey = some key ∧
      rt.manage policy key provider optIn json ctx = .ok (ctx', some request) := by
  unfold onRequest at h
  split at h
  · cases h
  split at h
  · cases h
  split at h
  · cases h
  next body hbody =>
  split at h
  · cases h
  · cases h
  next optIn json hoptIn =>
  split at h
  · cases h
  split at h
  · cases h
  next key hkey =>
  split at h
  · cases h
  next provider _ =>
  split at h
  · cases h
  exact ⟨body, optIn, json, key, provider, hbody, hoptIn, hkey, h⟩

theorem extractOptIn_unasked (h : json.get optInKey = none) : extractOptIn json = .ok none := by
  unfold extractOptIn
  split
  · next members =>
    have hnone : members.lookup optInKey = none := h
    rw [hnone]
  · rfl

/-- A second time the plugin does nothing. -/
theorem onRequest_of_settled (hjson : Settled json) (hbody : ctx.body = some json.print)
    (h : rt.onRequest brownout policy ctx = .ok (ctx', request)) : ctx' = ctx ∧ request = none := by
  have hunread : ∀ {body}, ctx.body.bind readJson = some body → extractOptIn body = .ok none := by
    intro body hread
    rw [hbody] at hread
    rw [eq_of_parse_print hjson.canonical hread]
    exact extractOptIn_unasked hjson.unasked
  unfold onRequest at h
  split at h
  · cases h
    exact ⟨rfl, rfl⟩
  split at h
  · cases h
  split at h
  · cases h
    exact ⟨rfl, rfl⟩
  next body hread =>
  rw [hunread hread] at h
  cases h
  exact ⟨rfl, rfl⟩

/-- A request that asks for no tools passes. -/
theorem onRequest_unasked (h : (ctx.body.bind readJson).bind (·.get optInKey) = none) :
    rt.onRequest false policy ctx = .ok (ctx, none) := by
  unfold onRequest
  split
  · rfl
  · cases hbody : ctx.body.bind readJson with
    | none => rfl
    | some body =>
      rw [hbody] at h
      simp only [extractOptIn_unasked h, Bool.false_eq_true, if_false]

/-- Under load every `POST` is refused, before it is known whether it asks for tools. -/
theorem onRequest_brownout_iff (h : (ctx.body.bind readJson).bind (·.get optInKey) = none) :
    rt.onRequest true policy ctx = rt.onRequest false policy ctx ↔ ctx.method ≠ "POST" := by
  rw [onRequest_unasked h]
  by_cases hmethod : ctx.method = "POST"
  · refine iff_of_false (fun heq => ?_) (not_not.mpr hmethod)
    rw [onRequest, if_neg (not_not.mpr hmethod)] at heq
    cases heq
  · refine iff_of_true ?_ hmethod
    rw [onRequest, if_pos hmethod]

end Hook

end ToolRuntime

/-! ## The chain -/

inductive GatewayPlugin where
  | virtualKeys
  | promptRegistry
  | contentFilter
  | promptCache
  | semanticCache
  | semanticSafety
  | toolRuntime
  | costTracker
  | rateLimiter
  | providerFailover
  deriving DecidableEq

structure PluginConfig where
  name : String
  enabled : Bool

/-- The plugin of a name; others are passed over with a warning. -/
def pluginNamed (name : String) : Option GatewayPlugin :=
  if name = "prompt_registry" then some .promptRegistry
  else if name = "content_filter" then some .contentFilter
  else if name = "prompt_cache" then some .promptCache
  else if name = "semantic_cache" then some .semanticCache
  else if name = "semantic_safety" then some .semanticSafety
  else if name = "tool_runtime" then some .toolRuntime
  else if name = "cost_tracker" then some .costTracker
  else if name = "rate_limiter" || name = "token_rate_limiter" then some .rateLimiter
  else if name = "provider_failover" then some .providerFailover
  else none

/-- Where a plugin is configured first. -/
def pluginPosition (configs : List PluginConfig) (plugin : GatewayPlugin) : Option Nat :=
  configs.findIdx? fun pc => pc.enabled && pluginNamed pc.name = some plugin

/-- The first plugin, if it is there, does not come after the second. -/
def inOrder (configs : List PluginConfig) (first second : GatewayPlugin) (message : String) :
    Except Text Unit :=
  match pluginPosition configs first, pluginPosition configs second with
  | some i, some j => if j < i then .error message.toList else .ok ()
  | _, _ => .ok ()

def afterPromptRegistry (plugin : String) : String :=
  "prompt_registry must be configured before " ++ plugin ++
    " so resolved prompt text is included in downstream caching, safety, and tool processing"

/-- The plugins of a gateway, in the order of their configuration. -/
def createPlugins (hasProviders : Bool) (configs : List PluginConfig) :
    Except Text (List GatewayPlugin) := do
  inOrder configs .contentFilter .semanticSafety
    ("semantic_safety must be configured after content_filter so local redaction runs before " ++
      "remote export")
  inOrder configs .promptRegistry .semanticCache (afterPromptRegistry "semantic_cache")
  inOrder configs .promptRegistry .promptCache (afterPromptRegistry "prompt_cache")
  inOrder configs .promptRegistry .contentFilter (afterPromptRegistry "content_filter")
  inOrder configs .promptRegistry .semanticSafety (afterPromptRegistry "semantic_safety")
  inOrder configs .promptRegistry .toolRuntime (afterPromptRegistry "tool_runtime")
  inOrder configs .contentFilter .semanticCache
    ("semantic_cache must be configured after content_filter so local redaction runs before " ++
      "cache matching")
  inOrder configs .semanticSafety .semanticCache
    ("semantic_cache must be configured after semantic_safety so request safety checks still " ++
      "run on cache hits")
  inOrder configs .semanticCache .promptCache
    ("semantic_cache must be configured before prompt_cache so gateway cache checks happen " ++
      "before provider-specific cache controls")
  inOrder configs .rateLimiter .semanticCache
    ("rate_limiter must be configured before semantic_cache so per-key admission still runs " ++
      "on cache hits")
  inOrder configs .costTracker .semanticCache
    ("cost_tracker must be configured before semantic_cache so usage/cost accounting still runs " ++
      "on cache hits")
  return (if hasProviders then [.virtualKeys] else []) ++
    (configs.filter (·.enabled)).filterMap fun pc => pluginNamed pc.name

/-- Plugins that may write the body of a request. -/
def GatewayPlugin.writesBody : GatewayPlugin → Bool
  | virtualKeys | promptRegistry | contentFilter | promptCache | semanticCache | toolRuntime => true
  | semanticSafety | costTracker | rateLimiter | providerFailover => false

open ToolRuntime

/-- The hooks of a request: those of the tool runtime, and those of the others. -/
structure RequestHooks where
  runtime : ToolRuntime
  policy : ToolPolicy
  brownout : Bool
  other : GatewayPlugin → RequestContext → Except HttpResponse RequestContext
  leaves : ∀ plugin, plugin.writesBody = false → ∀ ctx ctx', other plugin ctx = .ok ctx' →
    ctx'.body = ctx.body

namespace RequestHooks

variable (hooks : RequestHooks)

/-- The context, and what is kept for the answer. -/
abbrev State := RequestContext × Option ToolRuntimeRequest

def onRequest (s : State) : GatewayPlugin → Except HttpResponse State
  | .toolRuntime =>
    (hooks.runtime.onRequest hooks.brownout hooks.policy s.1).map fun s' => (s'.1, s'.2.or s.2)
  | plugin => (hooks.other plugin s.1).map fun ctx => (ctx, s.2)

def run (plugins : List GatewayPlugin) (s : State) : Except HttpResponse State :=
  plugins.foldlM hooks.onRequest s

/-- The plugin does not write the body. -/
def LeavesBody (plugin : GatewayPlugin) : Prop :=
  ∀ ctx ctx', hooks.other plugin ctx = .ok ctx' → ctx'.body = ctx.body

variable {hooks}

/-- What the tool runtime has written stays, unless a plugin that writes bodies comes later. -/
theorem onRequest_of_settled {plugin : GatewayPlugin} {json : Value} {s s' : State}
    (hplugin : plugin ≠ .toolRuntime → hooks.LeavesBody plugin) (hjson : Settled json)
    (hbody : s.1.body = some json.print) (h : hooks.onRequest s plugin = .ok s') :
    s'.1.body = some json.print ∧ s'.2 = s.2 := by
  by_cases htools : plugin = .toolRuntime
  · subst htools
    obtain ⟨⟨ctx', request⟩, honRequest, rfl⟩ := map_eq_ok h
    obtain ⟨rfl, rfl⟩ := ToolRuntime.onRequest_of_settled hjson hbody honRequest
    exact ⟨hbody, rfl⟩
  · have hother : hooks.onRequest s plugin = (hooks.other plugin s.1).map fun ctx =>
        (ctx, s.2) := by
      cases plugin with
      | toolRuntime => exact absurd rfl htools
      | _ => rfl
    rw [hother] at h
    obtain ⟨ctx, hctx, rfl⟩ := map_eq_ok h
    exact ⟨(hplugin htools _ _ hctx).trans hbody, rfl⟩

theorem run_of_settled {json : Value} (hjson : Settled json) {plugins : List GatewayPlugin}
    {s s' : State} (hleaves : ∀ plugin ∈ plugins, plugin ≠ .toolRuntime → hooks.LeavesBody plugin)
    (hbody : s.1.body = some json.print) (h : hooks.run plugins s = .ok s') :
    s'.1.body = some json.print ∧ s'.2 = s.2 := by
  induction plugins generalizing s with
  | nil =>
    cases h
    exact ⟨hbody, rfl⟩
  | cons plugin plugins ih =>
    obtain ⟨hhead, htail⟩ := forall_mem_cons.mp hleaves
    obtain ⟨mid, hmid, h⟩ := bind_eq_ok h
    obtain ⟨hbody', hrequest⟩ := onRequest_of_settled hhead hjson hbody hmid
    obtain ⟨hfinal, hrequest'⟩ := ih htail hbody' h
    exact ⟨hfinal, hrequest'.trans hrequest⟩

end RequestHooks

/-! ## Offered and executed -/

/-- The names in a body, where they are given, are different strings. -/
def NamesApart (body : Value) : Prop :=
  ∀ values, requestedNames body = some (.arr values) →
    ∃ names : List Text, values = names.map .str ∧ names.Nodup

/-- The client's own tools have different names. -/
def ClientToolsApart (shape : ManagedToolRequestShape) (body : Value) : Prop :=
  ((clientTools body).map shape.writing.nameOf).Nodup

/-- The tools that a body asks for: all that may be used when it gives no names, and else those that
it names. -/
def ToolsAsked (registry : ToolRegistry) (policy : ToolPolicy) (body : Value)
    (tool : ProjectToolRecord) :
    Prop :=
  (tool ∈ registry.records ∧ tool.enabled = true ∧ isApproved policy tool.toolName = true) ∧
    ∀ value values, requestedNames body = some (.arr (value :: values)) →
      .str tool.toolName ∈ value :: values

/-- The body that is sent has the client's tools and one definition for each tool that is kept,
names are different, and the tools that are kept are those asked for. -/
structure Offers (registry : ToolRegistry) (policy : ToolPolicy) (body : Value) (sent : Option Text)
    (request : ToolRuntimeRequest) : Prop where
  tools : ∃ (json : Value) (selected : List ProjectToolRecord) (definitions : List Value),
    sent = some json.print ∧
    json.get "tools" = some (.arr (clientTools body ++ definitions)) ∧
    Forall₂ (Defines request.requestShape.writing) selected definitions ∧
    (selected.map (·.toolName)).Perm request.selectedTools.keys ∧
    (∀ tool, tool ∈ selected ↔ request.selectedTools.lookup tool.toolName = some tool) ∧
    ((clientTools body ++ definitions).map request.requestShape.writing.nameOf).Nodup
  selected : ∀ tool, request.selectedTools.lookup tool.toolName = some tool ↔
    ToolsAsked registry policy body tool
  named : ∀ values, requestedNames body = some (.arr values) → ∀ name, .str name ∈ values →
    ∃ tool, request.selectedTools.lookup name = some tool

section Offers

variable {registry : ToolRegistry} {policy : ToolPolicy} {hashOrder : HashOrder} {body : Value}

theorem namesOf_map (names : List Text) : ToolRuntime.namesOf (names.map .str) = names := by
  rw [ToolRuntime.namesOf, filterMap_map]
  exact filterMap_some

variable {names : Option (List Text)}

/-- The names of a body, read by the plugin: none, or the ones it gives. -/
theorem extractNames_cases (hapart : NamesApart body)
    (h : extractNames (requestedNames body) = .ok names) :
    ((names = none ∨ names = some []) ∧
      ∀ value values, requestedNames body ≠ some (.arr (value :: values))) ∨
    ∃ name rest, names = some (name :: rest) ∧ (name :: rest).Nodup ∧
      requestedNames body = some (.arr ((name :: rest).map .str)) := by
  unfold extractNames at h
  split at h
  · next values hvalues =>
    cases h
    obtain ⟨given, rfl, hnodup⟩ := hapart values hvalues
    rw [namesOf_map]
    cases given with
    | nil =>
      left
      refine ⟨.inr rfl, ?_⟩
      intro value values heq
      rw [hvalues] at heq
      cases heq
    | cons name rest => exact .inr ⟨name, rest, rfl, hnodup, hvalues⟩
  iterate 2
    next hnone =>
      cases h
      refine .inl ⟨.inl rfl, ?_⟩
      intro value values heq
      rw [hnone] at heq
      cases heq
  · cases h

theorem eq_of_toolName {tool other : ProjectToolRecord} (htool : tool ∈ registry.records)
    (hother : other ∈ registry.records) (h : tool.toolName = other.toolName) : tool = other :=
  inj_on_of_nodup_map registry.distinct htool hother h

/-- The selected tools are those asked for, once each, and there is one for every name. -/
theorem selected_asked {selected : List ProjectToolRecord} (hapart : NamesApart body)
    (hnames : extractNames (requestedNames body) = .ok names)
    (h : selectTools hashOrder registry.records names policy = .ok selected) :
    (selected.map (·.toolName)).Nodup ∧
      (∀ tool, tool ∈ selected ↔ ToolsAsked registry policy body tool) ∧
      ∀ values, requestedNames body = some (.arr values) → ∀ name, .str name ∈ values →
        ∃ tool ∈ selected, tool.toolName = name := by
  rcases extractNames_cases hapart hnames with ⟨hnone, hempty⟩ | ⟨name, rest, rfl, hnodup, hgiven⟩
  -- no names are given, so all that the policy allows are asked for
  · obtain ⟨hnodup, hmem⟩ := selectTools_unnamed hnone h
    refine ⟨hnodup, ?_, ?_⟩
    · intro tool
      rw [hmem]
      constructor
      · intro htool
        exact ⟨htool, fun value values heq => absurd heq (hempty value values)⟩
      · intro htool
        exact htool.1
    · intro values heq name hname
      cases values with
      | nil => cases hname
      | cons value values => exact absurd heq (hempty value values)
  -- names are given, and the selection has one tool for each in their order
  · obtain ⟨hselected, hmem⟩ := selectTools_named h
    have hnamed : ∀ found, found ∈ name :: rest → ∃ tool ∈ selected, tool.toolName = found := by
      intro found hfound
      rw [← hselected] at hfound
      exact mem_map.mp hfound
    refine ⟨by rw [hselected]; exact hnodup, ?_, ?_⟩
    · intro tool
      constructor
      · intro htool
        refine ⟨hmem tool htool, ?_⟩
        intro value values heq
        have hlist := arr.inj (Option.some.inj (hgiven.symm.trans heq))
        rw [← hlist, ← hselected]
        exact mem_map_of_mem (mem_map_of_mem htool)
      · intro htool
        -- the tool found for the name is this one, as the registry has a name once
        obtain ⟨⟨hrecord, -⟩, hasked⟩ := htool
        have hstr : str tool.toolName ∈ (name :: rest).map .str := hasked _ _ hgiven
        obtain ⟨found, hfound, heq⟩ := mem_map.mp hstr
        obtain ⟨other, hother, hname⟩ := hnamed found hfound
        cases heq
        rw [eq_of_toolName hrecord (hmem other hother).1 hname.symm]
        exact hother
    · intro values heq found hfound
      obtain rfl := arr.inj (Option.some.inj (hgiven.symm.trans heq))
      obtain ⟨name', hname', heq'⟩ := mem_map.mp hfound
      cases heq'
      exact hnamed found hname'

/-- Body and kept tools agree when the plugin is done. -/
theorem onRequest_offers {rt : ToolRuntime} {brownout : Bool} {ctx ctx' : RequestContext}
    {request : ToolRuntimeRequest} (h : rt.onRequest brownout policy ctx = .ok (ctx', some request))
    (hbody : ctx.body.bind readJson = some body) (hapart : NamesApart body)
    (hclient : ClientToolsApart request.requestShape body) :
    Offers (rt.registry request.projectId) policy body ctx'.body request ∧
      ∃ json, Settled json ∧ ctx'.body = some json.print := by
  obtain ⟨_, optIn, json, key, provider, hread, hoptIn, -, hmanage⟩ := onRequest_eq_ok h
  obtain rfl := Option.some.inj (hbody.symm.trans hread)
  obtain ⟨hnames, hjson, hsettled⟩ := extractOptIn_eq_ok hoptIn
  obtain ⟨selected, merged, allowedToolNames, shape, stream, hselected, hmerged, rfl, heq⟩ :=
    manage_eq_ok hmanage
  cases heq
  -- the body comes out of the parser, so printing it loses nothing
  have hcanonical : body.Canonical := by
    obtain ⟨raw, -, hparse⟩ := Option.bind_eq_some_iff.mp hbody
    exact (fits_of_parse hparse).canonical
  refine ⟨?_, merged, settled_of_merge (hsettled hcanonical) hmerged, rfl⟩
  obtain ⟨hnodup, hasked, hnamed⟩ := selected_asked hapart hnames hselected
  obtain ⟨members, definitions, existingNames, -, hmerge, hexisting, hdefines, hfree⟩ :=
    mergeTools_eq_ok hmerged
  rw [hjson] at hmerge hexisting
  have hkept : ∀ tool, tool ∈ selected ↔ (byName selected).lookup tool.toolName = some tool := by
    intro tool
    rw [lookup_byName hnodup]
    simp only [and_true]
  refine ⟨⟨merged, selected, definitions, rfl, ?_, hdefines, ?_, hkept, ?_⟩, ?_, ?_⟩
  · rw [hmerge]
    exact get_tools_insert _ members
  · -- both lists have every name once
    refine (perm_ext_iff_of_nodup hnodup (byName selected).nodupKeys).mpr ?_
    intro name
    show name ∈ _ ↔ name ∈ byName selected
    rw [← AList.lookup_isSome, Option.isSome_iff_exists, mem_map]
    constructor
    · intro hname
      obtain ⟨tool, htool, rfl⟩ := hname
      exact ⟨tool, (hkept tool).mp htool⟩
    · intro hname
      obtain ⟨tool, htool⟩ := hname
      exact ⟨tool, mem_of_lookup_byName htool⟩
  · exact nodup_names hexisting hclient hdefines hnodup hfree
  · intro tool
    rw [← hkept]
    exact hasked tool
  · intro values hvalues name hname
    obtain ⟨tool, htool, rfl⟩ := hnamed values hvalues name hname
    exact ⟨tool, (hkept tool).mp htool⟩

end Offers

/-- A request on its way through the plugins of a gateway, none of which answers it: the tool
runtime sees `seen` and leaves `written`. -/
structure Passage (hooks : RequestHooks) (configs : List PluginConfig)
    (before after : List GatewayPlugin)
    (arrived seen written final : RequestContext) (request : ToolRuntimeRequest) : Prop where
  created : ∃ hasProviders, createPlugins hasProviders configs =
    .ok (before ++ .toolRuntime :: after)
  before : hooks.run before (arrived, none) = .ok (seen, none)
  tools : hooks.onRequest (seen, none) .toolRuntime = .ok (written, some request)
  after : hooks.run after (written, some request) = .ok (final, some request)

variable {hasProviders : Bool}

theorem createPlugins_eq_ok {configs : List PluginConfig} {plugins : List GatewayPlugin}
    (h : createPlugins hasProviders configs = .ok plugins) :
    plugins = (if hasProviders then [.virtualKeys] else []) ++
      (configs.filter (·.enabled)).filterMap fun pc => pluginNamed pc.name := by
  iterate 11 obtain ⟨_, _, h⟩ := bind_eq_ok h
  exact (Except.ok.inj h).symm

theorem pluginNamed_ne_virtualKeys (name : String) : pluginNamed name ≠ some .virtualKeys := by
  unfold pluginNamed
  repeat' split
  all_goals simp

/-- The virtual keys come first or not at all. -/
theorem virtualKeys_not_mem {configs : List PluginConfig} {before after : List GatewayPlugin}
    (h : createPlugins hasProviders configs = .ok (before ++ .toolRuntime :: after)) :
    .virtualKeys ∉ after := by
  have hconfigured : .virtualKeys ∉ (configs.filter (·.enabled)).filterMap fun pc =>
      pluginNamed pc.name := by
    intro hmem
    obtain ⟨pc, -, hpc⟩ := mem_filterMap.mp hmem
    exact pluginNamed_ne_virtualKeys pc.name hpc
  have hplugins := createPlugins_eq_ok h
  intro hmem
  cases hasProviders with
  | false =>
    refine hconfigured ?_
    rw [if_neg (by decide), nil_append] at hplugins
    rw [← hplugins]
    exact mem_append_right _ (mem_cons_of_mem _ hmem)
  | true =>
    rw [if_pos rfl, singleton_append] at hplugins
    cases before with
    | nil => cases hplugins
    | cons first before =>
      refine hconfigured ?_
      rw [← (cons.inj hplugins).2]
      exact mem_append_right _ (mem_cons_of_mem _ hmem)

/-- What is offered is what is executed: for a request whose names are different strings, whose own
tools have different names, and which no plugin after the tool runtime rewrites, the body that is
sent has the client's tools and one definition for each tool that is kept; an empty list of names
asks for all. -/
theorem offered_are_executed (hooks : RequestHooks) (configs : List PluginConfig)
    (before after : List GatewayPlugin) (arrived seen written final : RequestContext) (body : Value)
    (request : ToolRuntimeRequest)
    (hpassage : Passage hooks configs before after arrived seen written final request)
    (hafter : ∀ plugin ∈ after,
      plugin = .promptRegistry ∨ plugin = .contentFilter ∨ plugin = .promptCache ∨
        plugin = .semanticCache → hooks.LeavesBody plugin)
    (hbody : seen.body.bind readJson = some body) (hapart : NamesApart body)
    (hclient : ClientToolsApart request.requestShape body) :
    Offers (hooks.runtime.registry request.projectId) hooks.policy body final.body request := by
  -- the virtual keys come first, and the plugins not named here never write a body
  have hleaves : ∀ plugin ∈ after, plugin ≠ .toolRuntime → hooks.LeavesBody plugin := by
    intro plugin hplugin htools
    cases plugin with
    | virtualKeys =>
      obtain ⟨_, hcreated⟩ := hpassage.created
      exact absurd hplugin (virtualKeys_not_mem hcreated)
    | promptRegistry => exact hafter _ hplugin (.inl rfl)
    | contentFilter => exact hafter _ hplugin (.inr (.inl rfl))
    | promptCache => exact hafter _ hplugin (.inr (.inr (.inl rfl)))
    | semanticCache => exact hafter _ hplugin (.inr (.inr (.inr rfl)))
    | toolRuntime => exact absurd rfl htools
    | _ => exact hooks.leaves _ rfl
  obtain ⟨⟨ctx', kept⟩, honRequest, heq⟩ := map_eq_ok hpassage.tools
  cases kept with
  | none => cases heq
  | some found =>
    cases heq
    obtain ⟨hoffers, json, hsettled, hwritten⟩ := onRequest_offers honRequest hbody hapart hclient
    obtain ⟨hfinal, -⟩ := RequestHooks.run_of_settled hsettled hleaves hwritten hpassage.after
    rw [show final.body = ctx'.body from hfinal.trans hwritten.symm]
    exact hoffers

/-! ## Two tools -/

namespace TwoTools

def tool (name : String) : ProjectToolRecord where
  projectId := "project"
  toolName := name.toList
  description := none
  inputSchemaJson := "\x7b\x7d"
  executorKind := "http"
  executorConfigJson := none
  enabled := true
  timeoutMs := none
  updatedAt := []

def registry : ToolRegistry := ⟨[tool "mail", tool "search"], by decide⟩

def runtime : ToolRuntime where
  providers := AList.singleton "p" ⟨true, fun _ => none⟩
  registry _ := registry
  responsesStreamMode := .strict
  serdeError := id
  hashOrder := ⟨id, fun _ => .refl _⟩

/-- The virtual keys and the semantic cache; the others do nothing. -/
def others (ctx : RequestContext) : GatewayPlugin → Except HttpResponse RequestContext
  | .virtualKeys => (openKeys ∅ gpt4Only .openAiEmbeddings).onRequest ctx
  | .semanticCache => emptySemanticCache.onRequest false ctx
  | _ => .ok ctx

theorem others_leave {plugin : GatewayPlugin} (hkeys : plugin ≠ .virtualKeys)
    (hcache : plugin ≠ .semanticCache) {ctx ctx' : RequestContext}
    (h : others ctx plugin = .ok ctx') :
    ctx'.body = ctx.body := by
  cases plugin with
  | virtualKeys => exact absurd rfl hkeys
  | semanticCache => exact absurd rfl hcache
  | _ =>
    cases h
    rfl

def hooks : RequestHooks where
  runtime := runtime
  policy := ⟨.allowAll, none⟩
  brownout := false
  other plugin ctx := others ctx plugin
  leaves plugin hplugin ctx ctx' h := by
    refine others_leave ?_ ?_ h
    · rintro rfl
      cases hplugin
    · rintro rfl
      cases hplugin

def configs (names : List String) : List PluginConfig := names.map fun name => ⟨name, true⟩

def arrives (body : Text) : RequestContext :=
  JsonRequest.context ⟨"POST", "/v1/completions", none, body⟩

/-- The request after the virtual keys. -/
def keyed (body : Text) : RequestContext :=
  { arrives body with virtualKey := some ⟨keyPrefix, "project", "p"⟩ }

/-- The names of the tools that are kept, and of those in the body that is written. -/
def offered (body : Value) : Option (List Text × List (Option Text)) :=
  (runtime.onRequest false hooks.policy (keyed body.print)).toOption.bind fun s =>
    s.2.map fun request => (request.selectedTools.keys,
      (clientTools request.requestJson).map openaiChatWriting.nameOf)

/-- A body that asks for tools with these names. -/
def asking (names : List Value) : Value :=
  objectOf [("trp_tools", objectOf [("names", .arr names)])]

/-- A body that asks for a tool, and has two tools of one name itself. -/
def doubled : Value :=
  let own := openaiChatWriting.define (tool "own") .null
  objectOf [("tools", .arr [own, own]),
    ("trp_tools", objectOf [("names", .arr [.str "mail"])])]

/-- The names of the tools that are kept, and the body that is sent. -/
def sent (plugins : List String) (body : Text) : Option (List Text × Option Text) :=
  (createPlugins true (configs plugins)).toOption.bind fun plugins =>
    (hooks.run plugins (arrives body, none)).toOption.bind fun s =>
      s.2.map fun request => (request.selectedTools.keys, s.1.body)

def prompt : Text :=
  "\x7b\"model\":\"gpt-4\",\"prompt\":\"x\",\"trp_tools\":\x7b\x7d\x7d"

/-- A request that names one tool. -/
def seen : RequestContext := keyed (asking [.str "search"]).print

def merged : Value :=
  objectOf [("tools", .arr [openaiChatWriting.define (tool "search") (.obj [])])]

def kept : ToolRuntimeRequest where
  providerName := "p"
  requestShape := .openAiChatCompletions
  projectId := "project"
  requestJson := merged
  selectedTools := byName [tool "search"]
  allowedToolNames := none
  stream := false

theorem leaves_costTracker : hooks.LeavesBody .costTracker := by
  intro ctx ctx' h
  cases h
  rfl

/-- An ordinary inference request. -/
def plain : RequestContext := arrives "\x7b\"model\":\"gpt-4\"\x7d"

end TwoTools

open TwoTools

theorem onRequest_brownout_get :
    runtime.onRequest true hooks.policy { plain with method := "GET" } =
      runtime.onRequest false hooks.policy
        { plain with method := "GET" } :=
  (onRequest_brownout_iff (by decide +kernel)).mpr (by decide)

theorem brownout_refuses_plain :
    (plain.body.bind readJson).isSome = true ∧
    (plain.body.bind readJson).bind (·.get optInKey) = none ∧
    (runtime.onRequest false hooks.policy plain).toOption.isSome = true ∧
    (runtime.onRequest true hooks.policy plain).toOption.isSome = false := by
  decide +kernel

theorem offered_are_executed_search :
    Offers registry hooks.policy (asking [.str "search"])
      (writeBody merged seen).body kept :=
  offered_are_executed hooks (configs ["tool_runtime", "cost_tracker"]) [] [.costTracker]
    seen seen (writeBody merged seen)
    (writeBody merged seen) (asking [.str "search"]) kept
    ⟨⟨false, by rfl⟩, rfl, by rfl, rfl⟩
    (fun plugin hplugin _ => by
      rw [mem_singleton.mp hplugin]
      exact leaves_costTracker)
    (by rfl)
    (fun values hvalues => ⟨["search"], by cases hvalues; rfl, by decide⟩)
    Pairwise.nil

/-- A list of names without a name asks for all tools; a name given twice is defined twice; the
client's own names are not looked at; and the semantic cache sends the body as it came. -/
theorem offered_differ :
    offered (asking []) = some (["mail".toList, "search"],
      [some "search".toList, some "mail"]) ∧
    offered (asking [.null]) = some (["mail".toList, "search"],
      [some "search".toList, some "mail"]) ∧
    offered (asking [.str "mail", .str "mail"]) =
      some (["mail".toList], [some "mail".toList, some "mail"]) ∧
    offered doubled =
      some (["mail".toList], [some "own".toList, some "own", some "mail"]) ∧
    sent ["tool_runtime", "semantic_cache"] prompt =
      some (["mail".toList, "search"], some prompt) :=
  ⟨by decide +kernel, by decide +kernel, by decide +kernel, by decide +kernel, by decide +kernel⟩

end TinyReverseProxy.Gateway
