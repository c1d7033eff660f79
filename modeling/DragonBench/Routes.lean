/-
  File:      DragonBench/Routes.lean
  Subject:   THE ROUTING TABLE AND THE DOCUMENTED PATHS: `start_http` registers a handler for every
             operation of `openapi.yaml`, and one of them is never reached.

  `httpd_uri_match_wildcard` knows a `*` at the end of a template only. The template
  `/api/v1/runs/*/abort` has one in the middle and matches just itself.

  * `WildcardMatch` -- what is relied on of the matcher, `wildcardMatch` -- a matcher that has it;
  * `Operation` -- the operations of `openapi.yaml`, run ids included;
  * `dispatch_eq` -- over this table all such matchers dispatch alike;
  * **`dispatched_iff`** -- an operation reaches its handler unless it is the abort;
  * `pathRunId_read`, `pathRunId_abort` -- the handlers would find the run id.
-/
import DragonBench.Ownership
import Mathlib.Data.List.Find

namespace DragonBench

/-! ## 1. The table -/

inductive HttpMethod where
  | get | post
  deriving DecidableEq, Repr

/-- The handlers `start_http` registers. -/
inductive Handler where
  | landingGet | setupGet | deviceGet | statusGet | sensorsGet | workloadsGet | runsPost
  | abortPost | runGet | eventsGet | networkStaPost
  deriving DecidableEq, Repr

/-- `httpd_uri_t`. -/
structure Route where
  uri : CText
  method : HttpMethod
  handler : Handler
  deriving DecidableEq, Repr

/-- `routes` of `start_http`. -/
def routes : List Route :=
  [⟨"/".toList, .get, .landingGet⟩, ⟨"/setup".toList, .get, .setupGet⟩,
    ⟨"/api/v1/device".toList, .get, .deviceGet⟩, ⟨"/api/v1/status".toList, .get, .statusGet⟩,
    ⟨"/api/v1/sensors".toList, .get, .sensorsGet⟩,
    ⟨"/api/v1/workloads".toList, .get, .workloadsGet⟩,
    ⟨"/api/v1/runs".toList, .post, .runsPost⟩,
    ⟨"/api/v1/runs/*/abort".toList, .post, .abortPost⟩,
    ⟨"/api/v1/runs/*".toList, .get, .runGet⟩, ⟨"/api/v1/events".toList, .get, .eventsGet⟩,
    ⟨"/api/v1/network/sta".toList, .post, .networkStaPost⟩]

/-! ## 2. The matcher -/

/-- The template ends in a character the matcher treats specially. -/
def endsSpecial (template : CText) : Bool :=
  template.getLast? = some '*' || template.getLast? = some '?'

/-- **What is relied on of `httpd_uri_match_wildcard`** (`config.uri_match_fn`): `*` and `?` are
    special at the end of a template only; a template without them matches itself, and one that
    ends in a single `*` matches what begins with the rest. -/
structure WildcardMatch (uriMatch : CText → CText → Bool) : Prop where
  literal : ∀ template uri, endsSpecial template = false →
    uriMatch template uri = decide (uri = template)
  star : ∀ p uri, endsSpecial p = false → uriMatch (p ++ ['*']) uri = p.isPrefixOf uri

/-- Such a matcher, for templates that do not end in `?`. -/
def wildcardMatch (template uri : CText) : Bool :=
  if template.getLast? = some '*' then template.dropLast.isPrefixOf uri
  else decide (uri = template)

theorem wildcardMatch_spec : WildcardMatch wildcardMatch where
  literal template uri h := by
    rw [endsSpecial, Bool.or_eq_false_iff] at h
    rw [wildcardMatch, if_neg (of_decide_eq_false h.1)]
  star p uri _ := by
    rw [wildcardMatch, if_pos List.getLast?_concat, List.dropLast_concat]

/-- The handler of a request: the first route that matches with the right method. -/
def dispatch (uriMatch : CText → CText → Bool) (method : HttpMethod) (uri : CText) :
    Option Handler :=
  (routes.find? fun r => uriMatch r.uri uri && decide (r.method = method)).map Route.handler

/-- Every template of the table is literal or ends in a single `*`. -/
theorem routes_simple : ∀ r ∈ routes, endsSpecial r.uri = false ∨
    endsSpecial r.uri.dropLast = false ∧ r.uri = r.uri.dropLast ++ ['*'] := by
  decide

/-- **Over this table every such matcher dispatches alike.** -/
theorem dispatch_eq {uriMatch : CText → CText → Bool} (hm : WildcardMatch uriMatch)
    (method : HttpMethod) (uri : CText) :
    dispatch uriMatch method uri = dispatch wildcardMatch method uri := by
  have hroute : ∀ r ∈ routes, uriMatch r.uri uri = wildcardMatch r.uri uri := by
    intro r hr
    rcases routes_simple r hr with h | ⟨h, e⟩
    · rw [hm.literal _ _ h, wildcardMatch_spec.literal _ _ h]
    · rw [e, hm.star _ _ h, wildcardMatch_spec.star _ _ h]
  have hfind : (routes.find? fun r => uriMatch r.uri uri && decide (r.method = method)) =
      routes.find? fun r => wildcardMatch r.uri uri && decide (r.method = method) :=
    List.find?_congr fun r hr => by rw [hroute r hr]
  rw [dispatch, dispatch, hfind]

/-! ## 3. The documented operations -/

/-- A run id of the form `runs_post` issues. -/
structure RunId where
  text : CText
  shape : ∃ a b, text = a ++ '-' :: b ∧ a.length = 8 ∧ b.length = 8 ∧
    ∀ c ∈ a ++ b, CText.isHexDigit c = true

/-- The ids `runs_post` prints have this form. -/
def RunId.issued (bootNonce : BitVec 32) (runCounter : Nat) : RunId where
  text := runIdText bootNonce.toNat (runCounter % 2 ^ 32)
  shape := by
    have hc : runCounter % 2 ^ 32 < 2 ^ 32 := Nat.mod_lt _ (by omega)
    refine ⟨_, _, runIdText_eq bootNonce.isLt hc, CText.hex08_length bootNonce.isLt,
      CText.hex08_length hc, fun c h => ?_⟩
    rcases List.mem_append.mp h with h | h <;> exact CText.isHexDigit_of_mem_hex08 h

theorem RunId.length (id : RunId) : id.text.length = 17 := by
  obtain ⟨a, b, e, ha, hb, -⟩ := id.shape
  rw [e, List.length_append, List.length_cons, ha, hb]

theorem RunId.ne_nil (id : RunId) : id.text ≠ [] := by
  intro e
  have hlen := id.length
  rw [e] at hlen
  cases hlen

/-- It fits the buffers the handlers copy it to. -/
theorem RunId.fits (id : RunId) : id.text.length < dbRunIdLen := by
  rw [id.length]
  decide

/-- No `/` in a run id. -/
theorem RunId.no_slash (id : RunId) : '/' ∉ id.text := by
  obtain ⟨a, b, e, -, -, hhex⟩ := id.shape
  rw [e]
  intro h
  have hmem : '/' ∈ a ++ b ∨ '/' = '-' := by
    rcases List.mem_append.mp h with h | h
    · exact Or.inl (List.mem_append_left _ h)
    · rcases List.mem_cons.mp h with h | h
      · exact Or.inr h
      · exact Or.inl (List.mem_append_right _ h)
  rcases hmem with h | h
  · exact absurd (hhex _ h) (by decide)
  · exact absurd h (by decide)

/-- The operations of `openapi.yaml`. -/
inductive Operation where
  | device | status | sensors | workloads | startRun
  | readRun (id : RunId)
  | abortRun (id : RunId)
  | events | networkSta

/-- The method of an operation. -/
def Operation.method : Operation → HttpMethod
  | .device | .status | .sensors | .workloads | .readRun _ | .events => .get
  | .startRun | .abortRun _ | .networkSta => .post

/-- The path of an operation. -/
def Operation.path : Operation → CText
  | .device => "/api/v1/device".toList
  | .status => "/api/v1/status".toList
  | .sensors => "/api/v1/sensors".toList
  | .workloads => "/api/v1/workloads".toList
  | .startRun => "/api/v1/runs".toList
  | .readRun id => "/api/v1/runs/".toList ++ id.text
  | .abortRun id => "/api/v1/runs/".toList ++ id.text ++ "/abort".toList
  | .events => "/api/v1/events".toList
  | .networkSta => "/api/v1/network/sta".toList

@[simp] theorem Operation.path_readRun (id : RunId) :
    (Operation.readRun id).path = "/api/v1/runs/".toList ++ id.text := rfl

@[simp] theorem Operation.path_abortRun (id : RunId) :
    (Operation.abortRun id).path = "/api/v1/runs/".toList ++ id.text ++ "/abort".toList := rfl

/-- The handler that serves an operation. -/
def Operation.handler : Operation → Handler
  | .device => .deviceGet
  | .status => .statusGet
  | .sensors => .sensorsGet
  | .workloads => .workloadsGet
  | .startRun => .runsPost
  | .readRun _ => .runGet
  | .abortRun _ => .abortPost
  | .events => .eventsGet
  | .networkSta => .networkStaPost

/-- A literal template of another length does not match. -/
theorem wildcardMatch_length {template uri : CText} (h : endsSpecial template = false)
    (hl : uri.length ≠ template.length) : wildcardMatch template uri = false := by
  rw [wildcardMatch_spec.literal _ _ h]
  exact decide_eq_false fun e => hl (congrArg List.length e)

/-- Reading a run reaches `run_get`. -/
theorem dispatch_readRun (id : RunId) :
    dispatch wildcardMatch .get (Operation.readRun id).path = some .runGet := by
  have hlen : (Operation.readRun id).path.length = 30 := by
    rw [Operation.path_readRun, List.length_append, id.length]
    decide
  have hskip : ∀ r ∈ routes.take 8, (wildcardMatch r.uri (Operation.readRun id).path &&
      decide (r.method = .get)) = false := by
    intro r hr
    have hr' : ∀ r ∈ routes.take 8, endsSpecial r.uri = false ∧ r.uri.length ≠ 30 := by decide
    have hl : (Operation.readRun id).path.length ≠ r.uri.length := by
      rw [hlen]
      exact (hr' r hr).2.symm
    rw [wildcardMatch_length (hr' r hr).1 hl, Bool.false_and]
  have hstar : wildcardMatch "/api/v1/runs/*".toList (Operation.readRun id).path = true :=
    (wildcardMatch_spec.star "/api/v1/runs/".toList _ (by decide)).trans
      (List.isPrefixOf_iff_prefix.mpr (List.prefix_append _ _))
  have hsplit : routes = routes.take 8 ++ routes.drop 8 := (List.take_append_drop 8 routes).symm
  have hfirst : (routes.take 8).find? (fun r => wildcardMatch r.uri (Operation.readRun id).path &&
      decide (r.method = .get)) = none := by
    rw [List.find?_eq_none]
    intro r hr
    rw [hskip r hr]
    exact Bool.false_ne_true
  have hdrop : routes.drop 8 =
      ⟨"/api/v1/runs/*".toList, .get, .runGet⟩ :: routes.drop 9 := rfl
  rw [dispatch, hsplit, List.find?_append, hfirst, Option.none_or, hdrop, List.find?_cons_of_pos]
  · rfl
  · rw [hstar]
    rfl

/-- **Aborting a run reaches no handler.** -/
theorem dispatch_abortRun (id : RunId) :
    dispatch wildcardMatch .post (Operation.abortRun id).path = none := by
  have hlen : (Operation.abortRun id).path.length = 36 := by
    rw [Operation.path_abortRun, List.length_append, List.length_append, id.length]
    decide
  have hnone : ∀ r ∈ routes, (wildcardMatch r.uri (Operation.abortRun id).path &&
      decide (r.method = .post)) = false := by
    intro r hr
    have hr' : ∀ r ∈ routes, r.method = .get ∨ endsSpecial r.uri = false ∧ r.uri.length ≠ 36 := by
      decide
    rcases hr' r hr with hget | ⟨hs, hl⟩
    · rw [hget]
      exact Bool.and_false _
    · have hl' : (Operation.abortRun id).path.length ≠ r.uri.length := by
        rw [hlen]
        exact hl.symm
      rw [wildcardMatch_length hs hl', Bool.false_and]
  have hfind : routes.find? (fun r => wildcardMatch r.uri (Operation.abortRun id).path &&
      decide (r.method = .post)) = none := by
    rw [List.find?_eq_none]
    intro r hr
    rw [hnone r hr]
    exact Bool.false_ne_true
  rw [dispatch, hfind]
  rfl

/-- **A documented operation reaches its handler unless it is the abort**, for every run id and
    every matcher that treats `*` as documented. -/
theorem dispatched_iff {uriMatch : CText → CText → Bool} (hm : WildcardMatch uriMatch)
    (op : Operation) :
    dispatch uriMatch op.method op.path = some op.handler ↔ ∀ id, op ≠ .abortRun id := by
  rw [dispatch_eq hm]
  cases op with
  | readRun id => exact ⟨fun _ _ => Operation.noConfusion, fun _ => dispatch_readRun id⟩
  | abortRun id =>
      refine ⟨fun h => ?_, fun h => absurd rfl (h id)⟩
      rw [Operation.method, dispatch_abortRun] at h
      cases h
  | device | status | sensors | workloads | startRun | events | networkSta =>
      exact ⟨fun _ _ => Operation.noConfusion, fun _ => by decide⟩

/-- Reading the status under a concrete matcher. -/
theorem dispatched_status :
    dispatch wildcardMatch .get "/api/v1/status".toList = some .statusGet :=
  (dispatched_iff wildcardMatch_spec .status).mpr fun _ => Operation.noConfusion

/-- **The abort of the first run of a boot goes nowhere.** -/
theorem abort_unreachable :
    dispatch wildcardMatch .post "/api/v1/runs/0000002a-00000001/abort".toList = none ∧
      ¬ ∀ op : Operation, dispatch wildcardMatch op.method op.path = some op.handler := by
  refine ⟨by decide, fun h => ?_⟩
  have habort := h (.abortRun (.issued 42 1))
  rw [Operation.method, dispatch_abortRun] at habort
  cases habort

/-! ## 4. What the handlers read off the path -/

theorem beforeInfix_append {needle id : CText} {c : Char} {rest : CText}
    (hn : needle = c :: rest) (hid : c ∉ id) :
    beforeInfix needle (id ++ needle) = some id := by
  subst hn
  induction id with
  | nil =>
      rw [List.nil_append, beforeInfix, if_pos (List.isPrefixOf_iff_prefix.mpr (List.prefix_refl _))]
  | cons d id ih =>
      rw [List.mem_cons, not_or] at hid
      have hne : (c :: rest).isPrefixOf (d :: (id ++ c :: rest)) = false := by
        rw [List.isPrefixOf, beq_false_of_ne hid.1, Bool.false_and]
      rw [List.cons_append, beforeInfix, hne, ih hid.2]
      rfl

/-- `run_get` finds the id in the path of its operation. -/
theorem pathRunId_read (id : RunId) :
    pathRunId (Operation.readRun id).path false = some id.text := by
  rw [pathRunId, Operation.path_readRun, List.drop_left]
  simp [id.ne_nil, id.fits]

/-- `abort_post` would find the id in the path of its operation. -/
theorem pathRunId_abort (id : RunId) :
    pathRunId (Operation.abortRun id).path true = some id.text := by
  have hb : beforeInfix "/abort".toList (id.text ++ "/abort".toList) = some id.text :=
    beforeInfix_append rfl id.no_slash
  rw [pathRunId, Operation.path_abortRun, List.append_assoc, List.drop_left, if_pos rfl, hb]
  simp [id.ne_nil, id.fits]

end DragonBench
