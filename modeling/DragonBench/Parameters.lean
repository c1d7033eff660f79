/-
  File:      DragonBench/Parameters.lean
  Subject:   WHAT BECOMES OF THE HOST: the `parameters` member of a run's events repeats the
             accepted request exactly when every character of the host stands for itself in JSON.

  `workload_task` puts the host between quotes as it is, `emit_event` parses the text again.
  `db_request_validate` looks at the characters of a host only for the network workloads.

  * `parse_parameters` -- a host of plain characters comes back, with the three numbers;
  * `parse_parameters_host` -- whatever comes back, its third member is the host as it was read;
  * `ReadsParameters` -- what is asked of `cJSON_Parse` for this;
  * `echoes_of_plain`, `echoes_iff` -- one event;
  * **`parameters_echo_iff`** -- every run event of every run;
  * `network_echo` -- the network workloads are on the safe side.
-/
import DragonBench.History

namespace DragonBench

open Transition Json

/-! ## 1. Reading the buffer back -/

/-- The members the events of a run should carry. -/
def requestMembers (r : DbRunRequest) : List (CText × Json) :=
  [("duration_ms".toList, .num (r.durationMs : ℚ)), ("rate_bps".toList, .num (r.rateBps : ℚ)),
    ("host".toList, .str r.host), ("port".toList, .num (r.port : ℚ))]

/-- The text behind the host. -/
def portFormat (r : DbRunRequest) : CText :=
  "port".toList ++ '"' :: ':' :: (CText.decimal r.port ++ ['}'])

/-- The text from the name of the host on. -/
def hostFormat (r : DbRunRequest) : CText :=
  "host".toList ++ '"' :: ':' :: '"' :: (r.host ++ '"' :: ',' :: '"' :: portFormat r)

/-- The format string of `parameters`, token by token. -/
theorem parametersFormat_eq (r : DbRunRequest) : parametersFormat r =
    '{' :: '"' :: ("duration_ms".toList ++ '"' :: ':' :: (CText.decimal r.durationMs ++
      ',' :: '"' :: ("rate_bps".toList ++ '"' :: ':' :: (CText.decimal r.rateBps ++
        ',' :: '"' :: hostFormat r)))) := by
  have h1 : "\x7b\"duration_ms\":".toList = '{' :: '"' :: ("duration_ms".toList ++ ['"', ':']) := by
    decide
  have h2 : ",\"rate_bps\":".toList = ',' :: '"' :: ("rate_bps".toList ++ ['"', ':']) := by decide
  have h3 : ",\"host\":\"".toList = ',' :: '"' :: ("host".toList ++ ['"', ':', '"']) := by decide
  have h4 : "\",\"port\":".toList = '"' :: ',' :: '"' :: ("port".toList ++ ['"', ':']) := by decide
  have h5 : "\x7d".toList = ['}'] := by decide
  unfold parametersFormat hostFormat portFormat
  simp only [h1, h2, h3, h4, h5, List.append_assoc, List.cons_append, List.nil_append]

section Read

variable (d : Dialect)

/-- A name of ASCII letters is read as it stands. -/
theorem stringBody_name {s : CText} (h : ∀ c ∈ s, c ≠ '"' ∧ c ≠ '\\' ∧ 32 ≤ c.toNat)
    (r : CText) : d.stringBody (s ++ '"' :: r) = some (s, r) :=
  d.stringBody_plain (fun c hc => d.plain_iff.mpr
    ⟨(h c hc).1, (h c hc).2.1, d.literal_of_le c (h c hc).2.2⟩) r

/-- A numeral in front of a comma or a brace. -/
theorem value_decimal (n m : Nat) {c : Char} (hc : isNumberChar c = false) (r : CText) :
    d.value (n + 1) (CText.decimal m ++ c :: r) = some (.num (m : ℚ), c :: r) := by
  refine d.value_number n ?_
  have h := number_append (t := c :: r) (stops_cons r hc) (number_decimal m)
  rwa [List.nil_append] at h

/-- A member whose value is a numeral, and the rest of the object. -/
theorem members_decimal (n m : Nat) {s : CText}
    (h : ∀ c ∈ s, c ≠ '"' ∧ c ≠ '\\' ∧ 32 ≤ c.toNat) (r : CText) :
    d.members (n + 2) ('"' :: (s ++ '"' :: ':' :: (CText.decimal m ++ ',' :: r))) =
      (d.members (n + 1) r).map fun q => ((s, .num (m : ℚ)) :: q.1, q.2) :=
  d.members_cons (n + 1) (stringBody_name d h _) (value_decimal d n m (by decide) r)
    (d.skip_cons (by decide) r)

/-- The object is read through its two first members. -/
theorem value_parameters (n : Nat) (r : DbRunRequest) :
    d.value (n + 4) (parametersFormat r) = (d.members (n + 1) ('"' :: hostFormat r)).map fun q =>
      (.obj (("duration_ms".toList, .num (r.durationMs : ℚ)) ::
        ("rate_bps".toList, .num (r.rateBps : ℚ)) :: q.1), q.2) := by
  have h1 : ∀ c ∈ "duration_ms".toList, c ≠ '"' ∧ c ≠ '\\' ∧ 32 ≤ c.toNat :=
    CText.forall_of_all (by decide)
  have h2 : ∀ c ∈ "rate_bps".toList, c ≠ '"' ∧ c ≠ '\\' ∧ 32 ≤ c.toNat :=
    CText.forall_of_all (by decide)
  rw [parametersFormat_eq, d.value_object, members_decimal d (n + 1) _ h1,
    members_decimal d n _ h2, Option.map_map, Option.map_map]
  rfl

/-- There is enough fuel. -/
theorem parse_parameters_eq (r : DbRunRequest) : ∃ n, d.parse (parametersFormat r) =
    (d.members (n + 3) ('"' :: hostFormat r)).map fun q =>
      .obj (("duration_ms".toList, .num (r.durationMs : ℚ)) ::
        ("rate_bps".toList, .num (r.rateBps : ℚ)) :: q.1) := by
  have hlen : 5 ≤ (parametersFormat r).length := by
    rw [parametersFormat_eq]
    simp only [List.length_cons, List.length_append]
    omega
  obtain ⟨n, hn⟩ := Nat.exists_eq_add_of_le hlen
  refine ⟨n, ?_⟩
  rw [Dialect.parse, hn, show 5 + n + 1 = (n + 2) + 4 by omega, value_parameters d (n + 2),
    Option.map_map]
  rfl

/-- **A host of plain characters comes back**, and with it the whole request. -/
theorem parse_parameters {r : DbRunRequest} (h : ∀ c ∈ r.host, d.plain c = true) :
    d.parse (parametersFormat r) = some (.obj (requestMembers r)) := by
  obtain ⟨n, hn⟩ := parse_parameters_eq d r
  have h3 : ∀ c ∈ "host".toList, c ≠ '"' ∧ c ≠ '\\' ∧ 32 ≤ c.toNat :=
    CText.forall_of_all (by decide)
  have h4 : ∀ c ∈ "port".toList, c ≠ '"' ∧ c ≠ '\\' ∧ 32 ≤ c.toNat :=
    CText.forall_of_all (by decide)
  have hhost : d.value (n + 2) ('"' :: (r.host ++ '"' :: ',' :: '"' :: portFormat r)) =
      some (.str r.host, ',' :: '"' :: portFormat r) := by
    rw [d.value_string, d.stringBody_plain h]
    rfl
  have hport : d.members (n + 2) ('"' :: portFormat r) =
      some ([("port".toList, .num (r.port : ℚ))], []) :=
    d.members_last (n + 1) (stringBody_name d h4 _) (value_decimal d n r.port (by decide) [])
      (d.skip_cons (by decide) [])
  rw [hn, hostFormat, d.members_cons (n + 2) (stringBody_name d h3 _) hhost
    (d.skip_cons (by decide) _), hport]
  rfl

/-- **Whatever comes back**, its third member is the host as it was read. -/
theorem parse_parameters_host {r : DbRunRequest} {v : Json}
    (h : d.parse (parametersFormat r) = some v) :
    ∃ s rest ms, v = .obj (("duration_ms".toList, .num (r.durationMs : ℚ)) ::
        ("rate_bps".toList, .num (r.rateBps : ℚ)) :: ("host".toList, .str s) :: ms) ∧
      d.stringBody (r.host ++ '"' :: ',' :: '"' :: portFormat r) = some (s, rest) := by
  obtain ⟨n, hn⟩ := parse_parameters_eq d r
  have h3 : ∀ c ∈ "host".toList, c ≠ '"' ∧ c ≠ '\\' ∧ 32 ≤ c.toNat :=
    CText.forall_of_all (by decide)
  rw [hn] at h
  obtain ⟨q, hq, rfl⟩ := Option.map_eq_some_iff.mp h
  obtain ⟨k, r₀, r', x, r'', ms, hk, hr, hx, hms⟩ := d.members_head hq
  rw [hostFormat, stringBody_name d h3] at hk
  cases hk
  rw [d.skip_cons (by decide)] at hr
  cases hr
  rw [d.value_string] at hx
  obtain ⟨p, hp, e⟩ := Option.map_eq_some_iff.mp hx
  cases e
  exact ⟨p.1, p.2, ms, by rw [hms], hp⟩

end Read

/-- **What is asked of `cJSON_Parse`**: with a host of characters that stand for themselves in JSON
    it reads the text of the request as its four members. -/
def ReadsParameters (parse : CText → Option Json) : Prop :=
  ∀ r : DbRunRequest, r.durationMs < 2 ^ 32 → r.rateBps < 2 ^ 32 → r.port < 2 ^ 16 →
    (∀ c ∈ r.host, (jsonText false).plain c = true) →
      parse (parametersFormat r) = some (.obj (requestMembers r))

/-- A reader of JSON does. -/
theorem ReadsJson.parameters {parse : CText → Option Json} (h : ReadsJson parse) :
    ReadsParameters parse := by
  intro r _ _ _ hplain
  exact h _ _ (parse_parameters _ hplain) rfl

/-! ## 2. One event -/

/-- The width of the text of `parameters`. -/
theorem parametersFormat_length (r : DbRunRequest) : (parametersFormat r).length =
    46 + (CText.decimal r.durationMs).length + (CText.decimal r.rateBps).length +
      r.host.length + (CText.decimal r.port).length := by
  have h1 : "duration_ms".toList.length = 11 := by decide
  have h2 : "rate_bps".toList.length = 8 := by decide
  have h3 : "host".toList.length = 4 := by decide
  have h4 : "port".toList.length = 4 := by decide
  rw [parametersFormat_eq]
  simp only [hostFormat, portFormat, List.length_cons, List.length_append, List.length_nil,
    h1, h2, h3, h4]
  omega

/-- **`parameters` is never cut**: 46 characters of its own, and 7, 10, 253 and 5 for the fields. -/
theorem parametersText_eq {body : Option Json} {r : DbRunRequest}
    (h : runsPostRequest body = .ok r) : parametersText r = parametersFormat r := by
  obtain ⟨hv, hrate, hport, hhost, -⟩ := runsPostRequest_ok h
  obtain ⟨-, hdur, -⟩ := dbRequestValidate_ok hv
  have h1 : (CText.decimal r.durationMs).length ≤ 7 :=
    CText.decimal_length_le (by omega) (by omega)
  have h2 : (CText.decimal r.rateBps).length ≤ 10 :=
    CText.decimal_length_le (by omega) (by omega)
  have h3 : (CText.decimal r.port).length ≤ 5 := CText.decimal_length_le (by omega) (by omega)
  refine CText.snprintf_of_lt ?_
  rw [parametersFormat_length]
  unfold dbHostLen at hhost
  unfold parametersLen
  omega

/-- **The member `parameters` says what was requested**: the four members in some order. -/
def Echoes (root : Json) (r : DbRunRequest) : Prop :=
  ∃ ms, getObjectItem "parameters".toList root = some (.obj ms) ∧ ms.Perm (requestMembers r)

/-- The host is the only string among the members. -/
theorem host_of_mem_requestMembers {r : DbRunRequest} {k s : CText}
    (h : (k, Json.str s) ∈ requestMembers r) : s = r.host := by
  simp only [requestMembers, List.mem_cons, List.not_mem_nil, or_false, Prod.mk.injEq,
    reduceCtorEq, and_false, Json.str.injEq, false_or] at h
  exact h.2

/-- Cutting at a NUL changes nothing in a request without one. -/
theorem cTree_requestMembers {r : DbRunRequest} (h : '\x00' ∉ r.host) :
    cTree (.obj (requestMembers r)) = .obj (requestMembers r) := by
  have h1 : cstr "duration_ms".toList = "duration_ms".toList := cstr_of_not_mem (by decide)
  have h2 : cstr "rate_bps".toList = "rate_bps".toList := cstr_of_not_mem (by decide)
  have h3 : cstr "host".toList = "host".toList := cstr_of_not_mem (by decide)
  have h4 : cstr "port".toList = "port".toList := cstr_of_not_mem (by decide)
  simp only [requestMembers, cTree, mapStr, mapStrMembers, h1, h2, h3, h4, cstr_of_not_mem h]

/-- What `db_request_validate` lets through stands for itself. -/
theorem plain_of_isHostChar {c : Char} (h : isHostChar c = true) (rawControl : Bool) :
    (jsonText rawControl).plain c = true := by
  have hne : ∀ x : Char, isHostChar x = false → c ≠ x := by
    intro x hx e
    subst e
    rw [hx] at h
    cases h
  refine (jsonText rawControl).plain_iff.mpr ⟨hne _ (by decide), hne _ (by decide), ?_⟩
  refine (jsonText rawControl).literal_of_le c ?_
  by_contra hlt
  have hsmall : ∀ n < 32, isHostChar (Char.ofNat n) = false := by decide
  refine hne _ (hsmall c.toNat (by omega)) ?_
  rw [Char.ofNat_toNat]

/-- The fields of an accepted request are as wide as in the source. -/
theorem request_bounds {body : Option Json} {r : DbRunRequest} (h : runsPostRequest body = .ok r) :
    r.durationMs < 2 ^ 32 ∧ r.rateBps < 2 ^ 32 ∧ r.port < 2 ^ 16 := by
  obtain ⟨hv, hrate, hport, -, -⟩ := runsPostRequest_ok h
  obtain ⟨-, hdur, -⟩ := dbRequestValidate_ok hv
  exact ⟨by omega, by omega, by omega⟩

section Echo

variable {cfg : Config} {e : Event} {body : Option Json} {r : DbRunRequest}

/-- A text read as the four members is an echo. -/
theorem echoes_of_read (hr : runsPostRequest body = .ok r)
    (he : e.args.parametersJson = some (parametersText r))
    (hread : cfg.parse (parametersFormat r) = some (.obj (requestMembers r))) :
    Echoes (e.root cfg) r := by
  have hnul : '\x00' ∉ r.host := (runsPostRequest_ok hr).2.2.2.2
  refine ⟨requestMembers r, ?_, List.Perm.refl _⟩
  rw [Event.root_parameters, he, parametersText_eq hr, Option.bind_some, hread, Option.map_some,
    cTree_requestMembers hnul]

/-- **A plain host is echoed.** -/
theorem echoes_of_plain (hparse : ReadsParameters cfg.parse) (hr : runsPostRequest body = .ok r)
    (he : e.args.parametersJson = some (parametersText r))
    (hplain : ∀ c ∈ r.host, (jsonText false).plain c = true) : Echoes (e.root cfg) r := by
  obtain ⟨hduration, hrate, hport⟩ := request_bounds hr
  exact echoes_of_read hr he (hparse r hduration hrate hport hplain)

/-- **One event echoes its request exactly when the host is plain.** -/
theorem echoes_iff {rawControl : Bool} (hparse : IsJsonParser rawControl cfg.parse)
    (hr : runsPostRequest body = .ok r) (he : e.args.parametersJson = some (parametersText r)) :
    Echoes (e.root cfg) r ↔ ∀ c ∈ r.host, (jsonText rawControl).plain c = true := by
  constructor
  · intro hecho
    obtain ⟨ms, hms, hperm⟩ := hecho
    rw [Event.root_parameters, he, parametersText_eq hr, Option.bind_some, hparse] at hms
    obtain ⟨v, hv, htree⟩ := Option.map_eq_some_iff.mp hms
    obtain ⟨s, rest, ms', rfl, hs⟩ := parse_parameters_host _ hv
    cases htree
    have hcut : (cstr "host".toList, Json.str (cstr s)) ∈ requestMembers r :=
      hperm.mem_iff.mp (List.mem_cons_of_mem _ (List.mem_cons_of_mem _ List.mem_cons_self))
    rcases cstr_eq (host_of_mem_requestMembers hcut) with e | ⟨p, e⟩
    · exact (jsonText rawControl).stringBody_splice (p := []) (x := '\x00') hs (Or.inl e)
        (by decide)
    · exact (jsonText rawControl).stringBody_splice hs (Or.inr e) (by decide)
  · intro hplain
    refine echoes_of_read hr he ?_
    rw [hparse]
    exact parse_parameters _ hplain

end Echo

/-! ## 3. The events of a run -/

section Runs

variable {B : Boot}

/-- The event of a run carries the parameters text of the request accepted for the run. -/
theorem runEvent_parameters {d : Device} (h : Reach (device B) Always d) {i : Insertion}
    (hi : i ∈ d.shared.inserted) {n : Nat} (hn : i.source = some n) {p : CText × DbRunRequest}
    (hp : d.accepted[n]? = some p) :
    i.event.args.parametersJson = some (parametersText p.2) := by
  obtain ⟨t, -, -, ⟨k, hargs⟩, p', hp', -, hreq⟩ := runEvent_task h hi hn
  rw [hp] at hp'
  cases hp'
  rw [hargs, ← hreq]
  rfl

/-- **Every event of every run echoes the accepted request exactly when every character of its
    host stands for itself** inside a JSON string, when cJSON parses JSON correctly. -/
theorem parameters_echo_iff {rawControl : Bool} (hparse : IsJsonParser rawControl B.cfg.parse)
    {d : Device} (h : Reach (device B) Always d) {i : Insertion}
    (hi : i ∈ d.shared.inserted) {n : Nat} (hn : i.source = some n) {p : CText × DbRunRequest}
    (hp : d.accepted[n]? = some p) :
    Echoes (i.event.root B.cfg) p.2 ↔
      ∀ c ∈ p.2.host, (jsonText rawControl).plain c = true := by
  obtain ⟨body, hr⟩ := (requestInv_reach h).request p (List.mem_of_getElem? hp)
  exact echoes_iff hparse hr (runEvent_parameters h hi hn hp)

/-- The bench reads JSON by its grammar. -/
theorem bench_isJsonParser : IsJsonParser false benchBoot.cfg.parse := rfl

/-- A request for an idle run with a host, which no validation looks at. -/
def idleWithHost (host : CText) : Option Json :=
  some (.obj [("workload".toList, .str "IDLE".toList), ("host".toList, .str host)])

/-- The first event of such a run. -/
def firstEvent (host : CText) : List Action :=
  [.runsPost (idleWithHost host), .createTask true] ++ List.replicate 4 firstTask

set_option maxRecDepth 4000 in
/-- An idle run towards `bench.local`. -/
theorem parameters_echo_bench : ∃ d, Reach (device benchBoot) Always d ∧
    ∃ i ∈ d.shared.inserted, ∃ p, d.accepted[0]? = some p ∧ p.2.host = "bench.local".toList ∧
      (Echoes (i.event.root benchBoot.cfg) p.2 ↔
        ∀ c ∈ p.2.host, (jsonText false).plain c = true) := by
  have h := benchRun_reach (firstEvent "bench.local".toList) (by decide)
  have hi := List.mem_of_getElem? (i := 2)
    (l := (benchRun (firstEvent "bench.local".toList)).shared.inserted) rfl
  exact ⟨_, h, _, hi, _, rfl, by decide, parameters_echo_iff bench_isJsonParser h hi (n := 0) rfl rfl⟩

set_option maxRecDepth 4000 in
/-- **A quote in the host**: the request is accepted, and its events say nothing of it. -/
theorem echo_lost : ∃ d, Reach (device benchBoot) Always d ∧
    ∃ i ∈ d.shared.inserted, ∃ p, i.source = some 0 ∧ d.accepted[0]? = some p ∧
      p.2.host = ['"'] ∧ ¬ Echoes (i.event.root benchBoot.cfg) p.2 := by
  have h := benchRun_reach (firstEvent ['"']) (by decide)
  have hi := List.mem_of_getElem? (i := 2)
    (l := (benchRun (firstEvent ['"'])).shared.inserted) rfl
  have hp : (benchRun (firstEvent ['"'])).accepted[0]? = some _ := rfl
  obtain ⟨body, hr⟩ := (requestInv_reach h).request _ (List.mem_of_getElem? hp)
  refine ⟨_, h, _, hi, _, rfl, hp, by decide, fun he => ?_⟩
  exact absurd ((echoes_iff bench_isJsonParser hr (runEvent_parameters h hi rfl hp)).mp he '"'
    (by decide)) (by decide)

/-- The network workloads are on the safe side: their host has been looked at. -/
theorem network_echo (hparse : ReadsParameters B.cfg.parse) {d : Device}
    (h : Reach (device B) Always d) {i : Insertion} (hi : i ∈ d.shared.inserted) {n : Nat}
    (hn : i.source = some n) {p : CText × DbRunRequest} (hp : d.accepted[n]? = some p)
    (hnet : isNetwork p.2.workload = true) :
    Echoes (i.event.root B.cfg) p.2 := by
  obtain ⟨body, hr⟩ := (requestInv_reach h).request p (List.mem_of_getElem? hp)
  have hhost := ((dbRequestValidate_ok (runsPostRequest_ok hr).1).2.2 hnet).2.2
  exact echoes_of_plain hparse hr (runEvent_parameters h hi hn hp) fun c hc =>
    plain_of_isHostChar (hhost c hc) _

end Runs

end DragonBench
