import TinyReverseProxy.Proxy.CacheRuns
import TinyReverseProxy.Proxy.Compression

/-!
# Lists that are spread over several lines

A header that is a list may come in several lines, and is then the list of all their members. In two
places the proxy adds a member to such a list: the peer to `X-Forwarded-For`, and `Accept-Encoding`
to `Vary`. Both read the first line only, take it for empty if it is not visible ASCII, and write
the new list over all lines. So the members of the other lines are lost (`forwarded_line_lost`,
`ensureVary_drops_line`).

`forwarded_chain_iff` and `ensureVary_keeps_iff` say when nothing is lost.
-/

namespace TinyReverseProxy.Proxy

open Lib ResponseCache Headers Codec Option List

/-- A line that is continued after a comma has the members of both parts. -/
theorem splitOn_comma (line rest : Text) :
    (line ++ ',' :: rest).splitOn ',' = line.splitOn ',' ++ rest.splitOn ',' :=
  splitOnP_append_cons line rest (beq_self_eq_true ',')

/-! ## The chain of hops -/

/-- The hops in lines of `X-Forwarded-For`; blank members are none. -/
def forwardedHops (lines : List Text) : List Text :=
  lines.flatMap fun line => ((line.splitOn ',').map Text.trim).filter (· ≠ [])

section Hops

variable {peer : Text}

theorem forwardedHops_cons (line : Text) (lines : List Text) :
    forwardedHops (line :: lines) = forwardedHops [line] ++ forwardedHops lines := by
  simp [forwardedHops]

theorem forwardedHops_comma (line rest : Text) :
    forwardedHops [line ++ ',' :: rest] = forwardedHops [line] ++ forwardedHops [rest] := by
  simp [forwardedHops, splitOn_comma]

theorem forwardedHops_eq_nil_iff (lines : List Text) :
    forwardedHops lines = [] ↔ ∀ line ∈ lines, forwardedHops [line] = [] := by
  simp [forwardedHops]

/-- The text of an address is one hop, with a blank before it or not. -/
theorem forwardedHops_peer (hne : peer ≠ [])
    (hplain : ∀ c ∈ peer, c ≠ ',' ∧ Text.isWhitespace c = false) :
    forwardedHops [peer] = [peer] ∧ forwardedHops [' ' :: peer] = [peer] := by
  have hstart : ∀ t : Text, (∀ c ∈ t, Text.isWhitespace c = false) → Text.trimStart t = t := by
    intro t ht
    cases t with
    | nil => rfl
    | cons c t => exact dropWhile_cons_of_neg (by simp [ht c])
  have htrim : Text.trim peer = peer := by
    rw [Text.trim, hstart _ fun c hc => (hplain c hc).2,
      hstart _ fun c hc => (hplain c (mem_reverse.mp hc)).2, reverse_reverse]
  have hsplit : ∀ t : Text, ',' ∉ t → t.splitOn ',' = [t] := by
    intro t ht
    refine splitOnP_eq_singleton fun c hc => ?_
    simpa using ne_of_mem_of_not_mem hc ht
  have hcomma : ',' ∉ peer := fun hmem => (hplain _ hmem).1 rfl
  constructor
  · simp [forwardedHops, hsplit _ hcomma, htrim, hne]
  · have hblank : Text.trim (' ' :: peer) = peer := htrim
    simp [forwardedHops, hsplit (' ' :: peer) (by simpa using hcomma), hblank, hne]

/-- One line is left, the first one with the peer added to it. -/
theorem getAll_forwardedFor (peer : Text) (host : Option Text) (tls : Bool) (headers : Headers) :
    (addForwardingHeaders peer host tls headers).getAll "x-forwarded-for" =
      [(headers.get "x-forwarded-for").elim peer fun line =>
        (toStr line).getD [] ++ ", " ++ peer] := by
  have hproto : "x-forwarded-for" ≠ "x-forwarded-proto".toList := by decide
  have hhost : "x-forwarded-for" ≠ "x-forwarded-host".toList := by decide
  unfold addForwardingHeaders
  cases headers.get "x-forwarded-for" <;> cases host.bind ofStr <;>
    simp only [getAll_insert_ne hproto, getAll_insert_ne hhost,
      getAll_insert_self, elim_none, elim_some]

/-- One line is left, with the hops of all lines and then the peer, exactly when no line but the
first has a hop, and the first has none unless it is visible ASCII. -/
theorem forwarded_chain_iff (headers : Headers) (host : Option Text) (tls : Bool) (hne : peer ≠ [])
    (hplain : ∀ c ∈ peer, c ≠ ',' ∧ Text.isWhitespace c = false) :
    (∃ line, (addForwardingHeaders peer host tls headers).getAll "x-forwarded-for" = [line] ∧
        forwardedHops [line] = forwardedHops (headers.getAll "x-forwarded-for") ++ [peer]) ↔
      (∀ line ∈ (headers.getAll "x-forwarded-for").tail, forwardedHops [line] = []) ∧
        ∀ line, headers.get "x-forwarded-for" = some line → toStr line = none →
          forwardedHops [line] = [] := by
  obtain ⟨hpeer, hblank⟩ := forwardedHops_peer hne hplain
  simp only [getAll_forwardedFor, cons.injEq, and_true, exists_eq_left', get_eq_head?_getAll]
  cases headers.getAll "x-forwarded-for" with
  | nil => exact ⟨fun _ => by simp, fun _ => hpeer⟩
  | cons first rest =>
    rw [tail_cons, head?_cons, elim_some, append_assoc]
    show forwardedHops [_ ++ ',' :: ' ' :: peer] = _ ↔ _
    -- what is left to compare is the first line as it is read, and all lines
    rw [forwardedHops_comma, hblank, forwardedHops_cons first rest, append_left_inj,
      ← forwardedHops_eq_nil_iff rest]
    cases hread : toStr first with
    | none =>
      have hempty : forwardedHops [Option.getD none []] = [] := rfl
      rw [hempty, eq_comm, append_eq_nil_iff, and_comm]
      simp [hread]
    | some readable =>
      obtain rfl : first = readable := some.inj (ite_none_right_eq_some.mp hread).2
      rw [getD_some, self_eq_append_right]
      simp [hread]

/-- Two hops in one line. -/
def oneLine : Headers := [("x-forwarded-for", "10.0.0.1, 10.0.0.2")]

theorem forwarded_chain_one_line :
    ∃ line, (addForwardingHeaders "::1" none false oneLine).getAll "x-forwarded-for" = [line] ∧
      forwardedHops [line] = forwardedHops (oneLine.getAll "x-forwarded-for") ++ ["::1".toList] :=
  (forwarded_chain_iff oneLine none false (by decide) (by simp [Text.isWhitespace])).mpr (by decide)

/-- Of two lines the second is lost. -/
theorem forwarded_line_lost :
    let headers : Headers := [("x-forwarded-for", "10.0.0.1"), ("x-forwarded-for", "10.0.0.2")]
    forwardedHops (headers.getAll "x-forwarded-for") = ["10.0.0.1".toList, "10.0.0.2".toList] ∧
      (addForwardingHeaders "::1" none false headers).getAll "x-forwarded-for" =
        ["10.0.0.1, ::1".toList] := by
  decide

end Hops

/-! ## The names in `Vary` -/

/-- The names in the first `Vary` line, if it can be read. -/
def leadingNames (headers : Headers) : List Text :=
  (((headers.get "vary").bind toStr).map fun line => (line.splitOn ',').map varyName).getD []

/-- What can be read can be written. -/
theorem ofStr_of_toStr {t : Text} (h : toStr t = some t) : ofStr t = some t := by
  obtain ⟨hvisible, -⟩ := ite_none_right_eq_some.mp h
  refine if_pos (all_eq_true.mpr fun c hc => ?_)
  have hc := all_eq_true.mp hvisible c hc
  simp only [Bool.or_eq_true, Bool.and_eq_true, decide_eq_true_eq] at hc ⊢
  exact hc.imp_left fun hc => ⟨hc.1, Nat.ne_of_lt hc.2⟩

section Vary

variable {headers : Headers}

theorem leadingNames_subset : leadingNames headers ⊆ varyNames headers := by
  intro name hname
  unfold leadingNames at hname
  rw [get_eq_head?_getAll] at hname
  unfold varyNames
  cases hlines : headers.getAll "vary" with
  | nil =>
    rw [hlines] at hname
    cases hname
  | cons first rest =>
    rw [hlines, head?_cons, bind_some, toStr] at hname
    split at hname
    · exact mem_flatMap.mpr ⟨first, mem_cons_self, hname⟩
    · cases hname

/-- The lines are left alone if the first one names `Accept-Encoding`; otherwise the first one, with
this name added, takes the place of all. -/
theorem ensureVary_cases (headers : Headers) :
    ("accept-encoding".toList ∈ leadingNames headers ∧ ensureVaryAcceptEncoding headers = headers) ∨
      "accept-encoding".toList ∉ leadingNames headers ∧ ∃ line,
        ensureVaryAcceptEncoding headers = headers.insert "vary" line ∧ toStr line = some line ∧
        (line.splitOn ',').map varyName = leadingNames headers ++ ["accept-encoding".toList] := by
  unfold ensureVaryAcceptEncoding leadingNames
  cases hread : (headers.get "vary").bind toStr with
  | none => exact .inr ⟨by simp, "Accept-Encoding", rfl, by decide, by decide⟩
  | some vary =>
    -- only the first line is read, and only if all of it is visible
    obtain ⟨first, -, hvisible⟩ := bind_eq_some_iff.mp hread
    obtain ⟨hvisible, heq⟩ := ite_none_right_eq_some.mp hvisible
    cases heq
    dsimp only [map_some, getD_some]
    have hmember : ((vary.splitOn ',').any fun token =>
        (Text.trim token).toAsciiLower = "accept-encoding") = true ↔
        "accept-encoding".toList ∈ (vary.splitOn ',').map varyName := by
      simp only [List.any_eq_true, decide_eq_true_eq, List.mem_map, varyName]
    split
    · next hnamed => exact .inl ⟨hmember.mp hnamed, rfl⟩
    · next hnamed =>
      have hline : toStr (vary ++ ", Accept-Encoding") = some (vary ++ ", Accept-Encoding") := by
        refine if_pos ?_
        rw [all_append, hvisible]
        decide
      refine .inr ⟨mt hmember.mpr hnamed, vary ++ ", Accept-Encoding", ?_, hline, ?_⟩
      · rw [ofStr_of_toStr hline]
      · show ((vary ++ ',' :: " Accept-Encoding").splitOn ',').map varyName = _
        rw [splitOn_comma, map_append]
        rfl

/-- Every name is kept, `Accept-Encoding` is named and a second time changes nothing, exactly when
the first line names `Accept-Encoding` already or has all names of the other lines, and of itself if
it cannot be read. -/
theorem ensureVary_keeps_iff (headers : Headers) :
    ((∀ name ∈ nominated headers, name ≠ [] → name ∈ nominated (ensureVaryAcceptEncoding headers)) ∧
      (['*'] ∈ varyNames headers ∨
        "accept-encoding".toList ∈ nominated (ensureVaryAcceptEncoding headers)) ∧
      ensureVaryAcceptEncoding (ensureVaryAcceptEncoding headers) =
        ensureVaryAcceptEncoding headers) ↔
    "accept-encoding".toList ∈ leadingNames headers ∨ ∀ name ∈ nominated headers,
      name = [] ∨ name = "accept-encoding" ∨ name ∈ leadingNames headers := by
  have hstar : "accept-encoding" ≠ ['*'] := by decide
  rcases ensureVary_cases headers with ⟨hmem, hsame⟩ | ⟨hnot, line, heq, hline, hnames⟩
  · refine iff_of_true ⟨?_, .inr ?_, ?_⟩ (.inl hmem)
    · rw [hsame]
      exact fun _ hname _ => hname
    · rw [hsame]
      exact mem_filter.mpr ⟨leadingNames_subset hmem, decide_eq_true hstar⟩
    · rw [hsame, hsame]
  · have hleading : leadingNames (ensureVaryAcceptEncoding headers) =
        leadingNames headers ++ ["accept-encoding".toList] := by
      rw [heq, leadingNames, get_insert_self, bind_some, hline]
      exact hnames
    -- the line that is written is the only one
    have hwritten : ∀ name, name ∈ nominated (ensureVaryAcceptEncoding headers) ↔
        (name ∈ leadingNames headers ∨ name = "accept-encoding") ∧ name ≠ ['*'] := by
      intro name
      rw [heq, nominated, varyNames, getAll_insert_self, flatMap_singleton, hnames]
      simp only [mem_filter, mem_append, mem_singleton, decide_eq_true_eq]
    constructor
    · rintro ⟨hkeeps, -⟩
      refine .inr fun name hname => or_iff_not_imp_left.mpr fun hne => ?_
      exact ((hwritten name).mp (hkeeps name hname hne)).1.symm
    · intro h
      refine ⟨fun name hname hne => ?_, .inr ((hwritten _).mpr ⟨.inr rfl, hstar⟩), ?_⟩
      · have hname' := (h.resolve_left hnot name hname).resolve_left hne
        exact (hwritten name).mpr ⟨hname'.symm, of_decide_eq_true (mem_filter.mp hname).2⟩
      · rcases ensureVary_cases (ensureVaryAcceptEncoding headers) with ⟨-, hsame⟩ | ⟨hnot, -⟩
        · exact hsame
        · rw [hleading] at hnot
          exact absurd (mem_append_right _ mem_cons_self) hnot

theorem ensureVary_drops_line :
    let headers : Headers := [("vary", "Origin"), ("vary", "Cookie")]
    nominated headers = ["origin".toList, "cookie".toList] ∧
      nominated (ensureVaryAcceptEncoding headers) =
        ["origin".toList, "accept-encoding".toList] := by
  decide

end Vary

end TinyReverseProxy.Proxy
