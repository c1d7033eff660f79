/-
  File:      DragonBench/RequestBody.lean
  Subject:   THE REQUEST OF THE CLI, BYTE FOR BYTE: from the arguments of `run` over `json.dumps` and
             `httpd_req_recv` to the request `runs_post` begins.

  The server hands the content of a request out in pieces of its own choice. `read_body` gathers
  them in a buffer of 1024 bytes of its stack, refuses what would not fit with its terminator, and
  gives up when a call brings nothing. Of `cJSON_Parse` it is asked that it reads flat objects.

  * `requestData` -- `json.dumps(body).encode()`;
  * `BodyRead`, `bodyStep`, `readBody` -- `read_body`, a step a call of `httpd_req_recv`;
  * `BodyInv` -- the buffer holds the start of the content and stays within its bounds;
  * `read_requestData` -- the tree of a body the client has sent;
  * `Asked` -- what the arguments of `run` ask for;
  * **`run_request_taken_iff`** -- what is accepted is what was asked for.
-/
import DragonBench.CliRun
import DragonBench.Lib.JsonLayout
import DragonBench.Lib.Transition

namespace DragonBench

open Json Transition

/-! ## 1. The data of a request -/

/-- `json.dumps(v)`: one line, a blank behind commas and colons, ASCII only. `fmt` writes the
    numbers. -/
def pyDumps (fmt : ℚ → CText) (v : Json) : CText :=
  (Layout.oneLine asciiEscape [' ']).print fmt 0 v

/-- `data` of `Client.request`: `json.dumps(body).encode()`. -/
def requestData (fmt : ℚ → CText) (body : List (CText × Json)) : CText :=
  utf8 (pyDumps fmt (.obj body))

/-- An integer in decimal, as Python and JavaScript write it; other numbers do not occur here. -/
def intText (q : ℚ) : CText :=
  if q.num < 0 then '-' :: CText.decimal (-q.num).toNat else CText.decimal q.num.toNat

theorem intText_reads (q : ℚ) : number (intText q) = some ((q.num : ℚ), []) := by
  unfold intText
  split_ifs with h
  · have hd := number_decimal (-q.num).toNat
    obtain ⟨c, s, hs⟩ := List.exists_cons_of_ne_nil (CText.decimal_ne_nil (-q.num).toNat)
    have hc : c ≠ '-' := by
      rintro rfl
      have := CText.isDigit_of_mem_decimal (n := (-q.num).toNat) (c := '-')
        (by rw [hs]; exact List.mem_cons_self)
      exact absurd this (by decide)
    rw [hs, number, if_neg hc] at hd
    have hcast : (((-q.num).toNat : Nat) : ℚ) = -(q.num : ℚ) := by
      have hz : (((-q.num).toNat : Nat) : Int) = -q.num := Int.toNat_of_nonneg (by omega)
      exact_mod_cast hz
    rw [number, if_pos rfl, hs, hd, Option.map_some, hcast, neg_neg]
  · have hcast : ((q.num.toNat : Nat) : ℚ) = (q.num : ℚ) := by
      have hz : ((q.num.toNat : Nat) : Int) = q.num := Int.toNat_of_nonneg (by omega)
      exact_mod_cast hz
    rw [number_decimal, hcast]

/-- Integers are written so that they are read back. -/
theorem intFormat : NumFormat intText fun q => (q.num : ℚ) where
  reads := intText_reads

/-! ## 2. `read_body` -/

/-- `JSON_BODY_MAX`. -/
def jsonBodyMax : Nat := 1024

/-- `read_body` between two calls of `httpd_req_recv`. -/
structure BodyRead where
  /-- the array of its stack -/
  body : List Char
  total : Nat
  /-- what of the content has arrived or will arrive, and was not handed out -/
  left : CText
  /-- the pointer returned -/
  result : Option (Option Json)

/-- The test of the loop: behind it the terminator is written and the text parsed. -/
def bodyTest (parse : CText → Option Json) (contentLen : Nat) (s : BodyRead) : BodyRead :=
  if s.total < contentLen then s
  else
    let body := s.body.set s.total '\x00'
    { s with body := body, result := some (parse (cstr body)) }

/-- A call of `httpd_req_recv` with room for the rest of the content, and the loop up to the next
    one. `got` is what the call returns: a number of bytes, or no positive number. -/
def bodyStep (parse : CText → Option Json) (contentLen : Nat) (s : BodyRead) (got : Int) :
    Option BodyRead :=
  match s.result with
  | some _ => none
  | none =>
    if got ≤ 0 then some { s with result := some none }
    else
      let n := got.toNat
      if n ≤ contentLen - s.total ∧ n ≤ s.left.length then
        some (bodyTest parse contentLen { s with
          body := s.body.take s.total ++ (s.left.take n ++ s.body.drop (s.total + n))
          total := s.total + n
          left := s.left.drop n })
      else none

/-- `read_body` in front of its loop; what the array holds is not known. -/
def BodyRead.start (contentLen : Nat) (content : CText) (array : List Char) : BodyRead where
  body := array
  total := 0
  left := content
  result := if contentLen = 0 ∨ jsonBodyMax ≤ contentLen then some none else none

/-- **`read_body`** for a request whose header says `contentLen`, and of whose content `content`
    arrives. -/
def readBody (parse : CText → Option Json) (contentLen : Nat) (content : CText) :
    System BodyRead Int where
  init s := ∃ array, array.length = jsonBodyMax ∧ s = .start contentLen content array
  step := bodyStep parse contentLen

/-- **The buffer holds the start of the content**, in bounds, and what is returned is the tree of the
    whole content or nothing. -/
structure BodyInv (parse : CText → Option Json) (contentLen : Nat) (content : CText)
    (s : BodyRead) : Prop where
  size : s.body.length = jsonBodyMax
  left : s.left = content.drop s.total
  held : s.result = none →
    s.total < contentLen ∧ contentLen < jsonBodyMax ∧ s.body.take s.total = content.take s.total
  arrived : s.total ≤ content.length
  returned : ∀ v, s.result = some v →
    v = none ∧ (contentLen = 0 ∨ jsonBodyMax ≤ contentLen ∨ s.total < contentLen) ∨
    0 < contentLen ∧ contentLen < jsonBodyMax ∧ s.total = contentLen ∧
      v = parse (cstr (content.take contentLen))

section Read

variable {parse : CText → Option Json} {contentLen : Nat} {content : CText} {s s' : BodyRead}
  {got : Int}

theorem bodyInv_start {array : List Char} (h : array.length = jsonBodyMax) :
    BodyInv parse contentLen content (.start contentLen content array) := by
  refine ⟨h, rfl, fun hr => ?_, Nat.zero_le _, fun v hv => ?_⟩
  · simp only [BodyRead.start] at hr
    split_ifs at hr with hlen
    rw [not_or, not_le] at hlen
    exact ⟨Nat.pos_of_ne_zero hlen.1, hlen.2, rfl⟩
  · simp only [BodyRead.start] at hv
    split_ifs at hv with hlen
    cases hv
    exact Or.inl ⟨rfl, hlen.imp_right Or.inl⟩

/-- A C string behind which the terminator stands. -/
theorem cstr_set {body : List Char} {k : Nat} (h : k < body.length) :
    cstr (body.set k '\x00') = cstr (body.take k) := by
  rw [List.set_eq_take_append_cons_drop, if_pos h, cstr, cstr]
  induction body.take k with
  | nil => rfl
  | cons c cs ih =>
      rw [List.cons_append, List.takeWhile_cons, List.takeWhile_cons, ih]

/-- **A call keeps the invariant.** -/
theorem bodyInv_step (I : BodyInv parse contentLen content s)
    (h : bodyStep parse contentLen s got = some s') :
    BodyInv parse contentLen content s' := by
  unfold bodyStep at h
  cases hr : s.result with
  | some v =>
      rw [hr] at h
      cases h
  | none =>
      obtain ⟨hlt, hmax, hheld⟩ := I.held hr
      rw [hr] at h
      dsimp only at h
      split_ifs at h with hgot hfit
      · -- nothing came
        cases h
        refine ⟨I.size, I.left, nofun, I.arrived, fun v hv => ?_⟩
        cases hv
        exact Or.inl ⟨rfl, Or.inr (Or.inr hlt)⟩
      · cases h
        obtain ⟨hroom, hhas⟩ := hfit
        -- the bytes go behind those that are there
        have hlen : (s.body.take s.total).length = s.total := by
          rw [List.length_take, I.size]
          omega
        have hn : (s.left.take got.toNat).length = got.toNat := List.length_take_of_le hhas
        have hlong : s.total + got.toNat ≤ content.length := by
          rw [I.left, List.length_drop] at hhas
          have := I.arrived
          omega
        have hfront : s.body.take s.total ++ s.left.take got.toNat =
            content.take (s.total + got.toNat) := by
          rw [hheld, I.left, List.take_add]
        have hsize : (s.body.take s.total ++
            (s.left.take got.toNat ++ s.body.drop (s.total + got.toNat))).length = jsonBodyMax := by
          rw [List.length_append, List.length_append, hlen, hn, List.length_drop, I.size]
          omega
        have htaken : (s.body.take s.total ++ (s.left.take got.toNat ++
            s.body.drop (s.total + got.toNat))).take (s.total + got.toNat) =
              content.take (s.total + got.toNat) := by
          rw [← List.append_assoc, hfront, List.take_append_of_le_length, List.take_take, min_self]
          rw [List.length_take_of_le hlong]
        unfold bodyTest
        dsimp only
        split_ifs with hmore
        · refine ⟨hsize, ?_, fun _ => ⟨hmore, hmax, htaken⟩, hlong, fun v hv => ?_⟩
          · rw [I.left, List.drop_drop]
          · cases hv
        · have htotal : s.total + got.toNat = contentLen := by omega
          refine ⟨?_, ?_, nofun, hlong, fun v hv => ?_⟩
          · rw [List.length_set]
            exact hsize
          · rw [I.left, List.drop_drop]
          · cases hv
            refine Or.inr ⟨by omega, hmax, htotal, ?_⟩
            rw [cstr_set (by rw [hsize]; omega), htaken, htotal]

theorem bodyInv_reach (h : Reach (readBody parse contentLen content) Always s) :
    BodyInv parse contentLen content s := by
  refine h.inv ?_ ?_
  · rintro s ⟨array, ha, rfl⟩
    exact bodyInv_start ha
  · intro s got s' _ I _ hs
    exact bodyInv_step I hs

end Read

/-! ## 3. What a sent body is read as -/

section Sent

variable {fmt : ℚ → CText} {read : ℚ → ℚ} (hf : NumFormat fmt read)

include hf

/-- The text is made of printable ASCII characters. -/
theorem pyDumps_ascii (v : Json) : ∀ x ∈ pyDumps fmt v, 32 ≤ x.toNat ∧ x.toNat < 128 := by
  have hmade : (Layout.oneLine asciiEscape [' ']).Made fun x => 32 ≤ x.toNat ∧ x.toNat < 128 := by
    refine Layout.oneLine_made (fun c x hx => mem_asciiEscape hx) (fun x hx => ?_)
      fun x h1 h2 => ⟨h1.le, h2⟩
    rw [List.mem_singleton.mp hx]
    decide
  exact Layout.print_all hmade hf v 0

/-- The data are the text. -/
theorem requestData_eq (body : List (CText × Json)) :
    requestData fmt body = pyDumps fmt (.obj body) :=
  utf8_ascii fun x hx => (pyDumps_ascii hf _ x hx).2

/-- **The text of a value is read back**, its strings as UTF-8. -/
theorem parse_pyDumps (v : Json) :
    (jsonText false).parse (cstr (pyDumps fmt v)) = some (readBack read (v.mapStr utf8)) := by
  have hnul : '\x00' ∉ pyDumps fmt v := fun h => absurd (pyDumps_ascii hf v _ h).1 (by decide)
  have hreads : (Layout.oneLine asciiEscape [' ']).Reads (jsonText false)
      fun c => (jsonText false).encode c.toNat := by
    refine Layout.oneLine_reads (fun c r => Dialect.stringBody_asciiEscape _ c r) fun c hc => ?_
    rw [List.mem_singleton.mp hc]
    rfl
  have h := Layout.parse_print (r := []) hreads hf v 0 fun c hc => absurd hc (by simp)
  rw [List.append_nil] at h
  rw [cstr_of_not_mem hnul, pyDumps, h]
  have hutf : (fun s : CText => s.flatMap fun c => (jsonText false).encode c.toNat) = utf8 := by
    funext s
    refine List.flatMap_congr fun c _ => ?_
    show utf8Bytes (Char.ofNat c.toNat) = _
    rw [Char.ofNat_toNat]
  rw [Layout.decoded, hutf]

/-- **What `read_body` returns for the data of a request**, a flat object. -/
theorem read_requestData {parse : CText → Option Json} (hparse : ReadsJson parse)
    {body : List (CText × Json)} (hflat : (Json.obj body).isFlat = true) {s : BodyRead}
    {v : Option Json}
    (h : Reach (readBody parse (requestData fmt body).length (requestData fmt body)) Always s)
    (hv : s.result = some v) :
    (requestData fmt body).length < jsonBodyMax ∧ s.total = (requestData fmt body).length ∧
        v = some (readBack read ((Json.obj body).mapStr utf8)) ∨
      v = none ∧ ¬ ((requestData fmt body).length < jsonBodyMax ∧
        s.total = (requestData fmt body).length) := by
  have hpos : (requestData fmt body).length ≠ 0 := by
    rw [requestData_eq hf]
    exact (Layout.print_length_pos hf 0 _).ne'
  rcases (bodyInv_reach h).returned v hv with ⟨rfl, hwhy⟩ | ⟨-, hmax, htotal, rfl⟩
  · refine Or.inr ⟨rfl, fun hn => ?_⟩
    rcases hwhy with h0 | h1 | h2
    · exact hpos h0
    · omega
    · omega
  · refine Or.inl ⟨hmax, htotal, ?_⟩
    rw [List.take_length, requestData_eq hf]
    refine hparse _ _ (parse_pyDumps hf _) ?_
    rw [isFlat_readBack, isFlat_mapStr, hflat]

end Sent

/-! ## 4. The request that is begun -/

/-- **What the arguments of `run` ask for**, in the device's terms: a workload of its table, a whole
    millisecond or more, a rate of 32 bits, the port or none, a host that its field holds, and for a
    network workload both of them in order. -/
structure Asked (upper : CText → CText) (millis : ℚ → ℚ) (args : RunArgs) (r : DbRunRequest) :
    Prop where
  workload : cstr (utf8 (upper args.workload)) = dbWorkloadName r.workload
  durationMs : (r.durationMs : Int) = ⌊millis args.duration⌋
  millisecond : 1 ≤ millis args.duration
  rateBps : (r.rateBps : Int) = args.rate
  rate : args.rate ≤ 4294967295
  port : (r.port : Int) = args.port.getD 0
  host : r.host = (args.targetHost.map fun h => cstr (utf8 h)).getD [] ∧
      r.host.length < dbHostLen ∨
    r.host = [] ∧ dbHostLen ≤ ((args.targetHost.map fun h => cstr (utf8 h)).getD []).length
  network : isNetwork r.workload = true →
    args.port ≠ none ∧ r.host ≠ [] ∧ ∀ c ∈ r.host, isHostChar c = true

section Asked

/-- The workload of a name. -/
theorem dbWorkloadParse_eq_some {name : CText} {w : DbWorkload} :
    dbWorkloadParse name = some w ↔ name = dbWorkloadName w := by
  constructor
  · intro h
    unfold dbWorkloadParse at h
    have hw := List.find?_some h
    exact of_decide_eq_true hw
  · rintro rfl
    exact dbWorkloadParse_name w

/-- **A field of an integer**: taken inside its range, and stored as it is. -/
theorem int_field_iff {item : Option Json} {lo hi : ℚ} {cast store : ℚ → Nat} {dflt m : Nat} {n : Int}
    (hfield : numericField item lo hi cast store dflt = none ↔
      ∃ q, item.bind valuedouble = some q ∧ OutOfRange lo hi q)
    (hs : ∀ q, lo ≤ q → q ≤ hi → q = (cast q : ℚ) → store q = cast q)
    (hitem : item = some (.num n)) (hlo : 0 ≤ lo) :
    numericField item lo hi cast store dflt = some m ↔ lo ≤ n ∧ (n : ℚ) ≤ hi ∧ (m : Int) = n := by
  have hseen : ∀ k, numericField item lo hi cast store dflt = some k → (k : Int) = n := by
    intro k hk
    have := numericField_seen hk hs
    rw [hitem] at this
    have hq : (k : ℚ) = (n : ℚ) := this
    exact_mod_cast hq
  have htaken := int_taken_iff hfield hitem hlo
  constructor
  · intro h
    obtain ⟨h1, h2⟩ := htaken.mp (by rw [h]; exact Option.some_ne_none m)
    exact ⟨h1, h2, hseen m h⟩
  · rintro ⟨h1, h2, hm⟩
    obtain ⟨k, hk⟩ := Option.ne_none_iff_exists'.mp (htaken.mpr ⟨h1, h2⟩)
    have hkm : k = m := by
      have := hseen k hk
      omega
    rw [hk, hkm]

variable {upper : CText → CText} {millis : ℚ → ℚ} {args : RunArgs} {r : DbRunRequest}

/-- The texts in the body as the device sees them. -/
theorem bodyItem_texts (upper : CText → CText) (millis : ℚ → ℚ) (args : RunArgs) :
    bodyItem (onDevice (runBody upper millis args)) "workload".toList =
        some (.str (utf8 (upper args.workload))) ∧
      ((bodyItem (onDevice (runBody upper millis args)) "host".toList).bind valuestring).getD [] =
        (args.targetHost.map fun h => cstr (utf8 h)).getD [] := by
  have h1 : utf8 "workload".toList = "workload".toList := utf8_ascii (CText.forall_of_all (by decide))
  have h2 : utf8 "duration_ms".toList = "duration_ms".toList :=
    utf8_ascii (CText.forall_of_all (by decide))
  have h3 : utf8 "rate_bps".toList = "rate_bps".toList := utf8_ascii (CText.forall_of_all (by decide))
  have h4 : utf8 "host".toList = "host".toList := utf8_ascii (CText.forall_of_all (by decide))
  have h5 : utf8 "port".toList = "port".toList := utf8_ascii (CText.forall_of_all (by decide))
  obtain ⟨workload, duration, targetHost, port, rate⟩ := args
  rcases targetHost with - | - | ⟨c, cs⟩ <;> cases port
  all_goals
    simp only [onDevice, runBody, mapStr, mapStrMembers, List.cons_append, List.nil_append, h1, h2,
      h3, h4, h5]
    exact ⟨rfl, rfl⟩

/-- The host field: the host when it fits. -/
theorem hostField_eq_iff {body : Option Json} {host h : CText}
    (hitem : ((bodyItem body "host".toList).bind valuestring).getD [] = host) :
    h = hostField body ↔ h = host ∧ h.length < dbHostLen ∨ h = [] ∧ dbHostLen ≤ host.length := by
  have hfield : hostField body = if host.length < dbHostLen then host else [] := by
    rw [← hitem]
    unfold hostField
    cases hs : (bodyItem body "host".toList).bind valuestring with
    | none => rfl
    | some s =>
        dsimp only [Option.getD_some]
        split_ifs with hlen
        · exact CText.snprintf_of_lt hlen
        · rfl
  rw [hfield]
  split_ifs with hlen
  · constructor
    · rintro rfl
      exact Or.inl ⟨rfl, hlen⟩
    · rintro (⟨e, -⟩ | ⟨-, hle⟩)
      · exact e
      · exact absurd hlen (not_lt.mpr hle)
  · constructor
    · rintro rfl
      exact Or.inr ⟨rfl, not_lt.mp hlen⟩
    · rintro (⟨rfl, hlt⟩ | ⟨e, -⟩)
      · exact absurd hlt hlen
      · exact e

/-- **What the device begins for a body that arrives whole.** -/
theorem asked_iff {call : ClientCall} (hm : KeepsHour millis)
    (hcall : executeRun upper millis args = .ok call) :
    runsPostRequest (onDevice call.body) = .ok r ↔ Asked upper millis args r := by
  obtain ⟨h0, h1, hrange, hbody⟩ := executeRun_ok hcall
  obtain ⟨hfloor, hle⟩ := pyInt_duration hm h0 h1
  obtain ⟨iduration, irate, iport⟩ := bodyItem_onDevice upper millis args
  obtain ⟨iworkload, ihost⟩ := bodyItem_texts upper millis args
  have hworkload : workloadField (onDevice (runBody upper millis args)) = some r.workload ↔
      cstr (utf8 (upper args.workload)) = dbWorkloadName r.workload := by
    rw [workloadField, iworkload]
    exact dbWorkloadParse_eq_some
  have hduration : durationField (onDevice (runBody upper millis args)) = some r.durationMs ↔
      1 ≤ millis args.duration ∧ (r.durationMs : Int) = ⌊millis args.duration⌋ := by
    have hone : (1 : ℚ) ≤ pyInt (millis args.duration) ↔ 1 ≤ millis args.duration := by
      rw [hfloor, ← Int.cast_one, Int.cast_le, Int.le_floor]
    rw [durationField, int_field_iff durationField_eq_none (fun _ _ _ _ => rfl) iduration
      zero_le_one, hone, hfloor]
    refine ⟨fun h => ⟨h.1, h.2.2⟩, fun h => ⟨h.1, ?_, h.2⟩⟩
    rwa [hfloor] at hle
  have hrate : rateField (onDevice (runBody upper millis args)) = some r.rateBps ↔
      args.rate ≤ 4294967295 ∧ (r.rateBps : Int) = args.rate := by
    rw [rateField, int_field_iff rateField_eq_none (fun _ _ _ _ => rfl) irate le_rfl]
    constructor
    · rintro ⟨-, h2, h3⟩
      exact ⟨by exact_mod_cast h2, h3⟩
    · rintro ⟨h2, h3⟩
      refine ⟨?_, by exact_mod_cast h2, h3⟩
      rw [← h3]
      exact_mod_cast Int.natCast_nonneg r.rateBps
  have hport : portField (onDevice (runBody upper millis args)) = some r.port ↔
      (r.port : Int) = args.port.getD 0 := by
    cases hp : args.port with
    | none =>
        rw [hp] at iport
        rw [portField, numericField, iport]
        show some 0 = some r.port ↔ (r.port : Int) = 0
        rw [Option.some.injEq, eq_comm]
        exact Int.natCast_eq_zero.symm
    | some port =>
        rw [hp] at iport
        obtain ⟨hp1, hp2⟩ := hrange port hp
        rw [portField, int_field_iff portField_eq_none
          (fun _ hlo hhi hint => portStore hlo hhi hint) iport zero_le_one]
        refine ⟨fun h => h.2.2, fun h => ⟨?_, ?_, h⟩⟩
        · exact_mod_cast hp1
        · exact_mod_cast hp2
  have hport0 : (r.port : Int) = args.port.getD 0 → (r.port ≠ 0 ↔ args.port ≠ none) := by
    intro h
    cases hp : args.port with
    | none =>
        rw [hp] at h
        have h : (r.port : Int) = 0 := h
        exact ⟨fun hn => absurd (by omega) hn, fun hn => absurd rfl hn⟩
    | some port =>
        rw [hp] at h
        have hp1 := (hrange port hp).1
        have h : (r.port : Int) = port := h
        exact ⟨fun _ => Option.some_ne_none port, fun _ => by omega⟩
  have hlong : (r.durationMs : Int) = ⌊millis args.duration⌋ → r.durationMs ≤ 3600000 := by
    intro h
    rw [hfloor, ← h] at hle
    exact_mod_cast hle
  rw [hbody, runsPostRequest_eq_ok]
  constructor
  · rintro ⟨fw, fd, fp, fr, fh, fv⟩
    obtain ⟨d1, d2⟩ := hduration.mp fd
    obtain ⟨r1, r2⟩ := hrate.mp fr
    have p := hport.mp fp
    refine ⟨hworkload.mp fw, d2, d1, r2, r1, p, (hostField_eq_iff ihost).mp fh, fun hn => ?_⟩
    obtain ⟨v1, v2, v3⟩ := (dbRequestValidate_ok fv).2.2 hn
    exact ⟨(hport0 p).mp v2, v1, v3⟩
  · rintro ⟨aw, ad, am, ar, ar', ap, ah, an⟩
    have hpos : 0 < r.durationMs := by
      have hfl := Int.le_floor.mpr (show ((1 : Int) : ℚ) ≤ millis args.duration by exact_mod_cast am)
      omega
    refine ⟨hworkload.mpr aw, hduration.mpr ⟨am, ad⟩, hport.mpr ap, hrate.mpr ⟨ar', ar⟩,
      (hostField_eq_iff ihost).mpr ah, dbRequestValidate_of hpos (hlong ad) fun hn => ?_⟩
    obtain ⟨n1, n2, n3⟩ := an hn
    exact ⟨n2, (hport0 ap).mpr n1, n3⟩

/-- The body is a flat object. -/
theorem runBody_flat (upper : CText → CText) (millis : ℚ → ℚ) (args : RunArgs) :
    (Json.obj (runBody upper millis args)).isFlat = true := by
  obtain ⟨workload, duration, targetHost, port, rate⟩ := args
  rcases targetHost with - | - | ⟨c, cs⟩ <;> cases port <;> rfl

/-- The numbers of a request are read as they are. -/
structure ReadExactly (read millis : ℚ → ℚ) (args : RunArgs) : Prop where
  duration : read (pyInt (millis args.duration)) = pyInt (millis args.duration)
  rate : read args.rate = args.rate
  port : ∀ port : Int, args.port = some port → read port = port

/-- Then the body is. -/
theorem readBack_runBody {read : ℚ → ℚ} (upper : CText → CText) {millis : ℚ → ℚ} {args : RunArgs}
    (hexact : ReadExactly read millis args) :
    some (readBack read ((Json.obj (runBody upper millis args)).mapStr utf8)) =
      onDevice (runBody upper millis args) := by
  obtain ⟨hduration, hrate, hport⟩ := hexact
  obtain ⟨workload, duration, targetHost, port, rate⟩ := args
  dsimp only at hduration hrate hport
  rcases targetHost with - | - | ⟨c, cs⟩ <;> cases port
  all_goals
    simp only [onDevice, runBody, mapStr, mapStrMembers, List.cons_append, List.nil_append, readBack,
      readBackMembers, hduration, hrate, hport]

end Asked

/-- **WHAT IS ACCEPTED IS WHAT WAS ASKED FOR**: the server hands the request of the command `run` out
    in any pieces; `runs_post` begins a run exactly when its bytes have arrived, fit the buffer and
    ask for one, and then for the one they ask for. -/
theorem run_request_taken_iff {upper : CText → CText} {millis : ℚ → ℚ} {args : RunArgs}
    {call : ClientCall} {fmt : ℚ → CText} {read : ℚ → ℚ} {parse : CText → Option Json} {s : BodyRead}
    {body : Option Json} (hparse : ReadsJson parse) (hm : KeepsHour millis)
    (hcall : executeRun upper millis args = .ok call) (hf : NumFormat fmt read)
    (hexact : ReadExactly read millis args)
    (h : Reach (readBody parse (requestData fmt call.body).length (requestData fmt call.body))
      Always s) (hr : s.result = some body) (r : DbRunRequest) :
    runsPostRequest body = .ok r ↔
      (requestData fmt call.body).length < jsonBodyMax ∧
      s.total = (requestData fmt call.body).length ∧ Asked upper millis args r := by
  have hbody := (executeRun_ok hcall).2.2.2
  have hflat : (Json.obj call.body).isFlat = true := by
    rw [hbody]
    exact runBody_flat upper millis args
  rcases read_requestData hf hparse hflat h hr with ⟨hfit, htotal, rfl⟩ | ⟨rfl, hnot⟩
  · have hback : some (readBack read ((Json.obj call.body).mapStr utf8)) = onDevice call.body := by
      rw [hbody]
      exact readBack_runBody upper hexact
    rw [hback, asked_iff hm hcall]
    exact ⟨fun ha => ⟨hfit, htotal, ha⟩, fun ha => ha.2.2⟩
  · constructor
    · intro hn
      cases hn
    · rintro ⟨h1, h2, -⟩
      exact absurd ⟨h1, h2⟩ hnot

/-- The data of `networkRun`. -/
def networkData : CText := requestData intText (runBody asciiUpper exactMillis networkRun)

/-- They arrive in two pieces. -/
def networkRead : BodyRead :=
  (readBody (jsonText false).parse networkData.length networkData).runEnd
    (.start networkData.length networkData (List.replicate jsonBodyMax '?'))
    [50, networkData.length - 50]

/-- What is asked for: 2500 ms of NET_TX to port 9000. -/
def networkAsked : DbRunRequest := ⟨.netTx, 2500, 0, 9000, "192.168.8.2".toList⟩

theorem asked_networkRun : Asked asciiUpper exactMillis networkRun networkAsked where
  workload := by decide
  durationMs := by norm_num [networkRun, networkAsked, exactMillis]
  millisecond := by norm_num [networkRun, exactMillis]
  rateBps := rfl
  rate := by decide
  port := rfl
  host := Or.inl ⟨by decide, by decide⟩
  network _ := ⟨Option.some_ne_none _, by decide, CText.forall_of_all (by decide)⟩

set_option maxRecDepth 20000 in
/-- The two pieces begin the run that was asked for. -/
theorem run_request_taken_network :
    ∃ body, networkRead.result = some body ∧ runsPostRequest body = .ok networkAsked := by
  have hsent : executeRun asciiUpper exactMillis networkRun =
      .ok ⟨"POST".toList, "/api/v1/runs".toList, runBody asciiUpper exactMillis networkRun⟩ := by
    unfold executeRun
    rw [if_neg (by norm_num [networkRun]), if_neg (by simp [networkRun])]
  have hreach : Reach (readBody (jsonText false).parse networkData.length networkData) Always
      networkRead :=
    reach_runEnd (.start ⟨_, List.length_replicate, rfl⟩) (by decide +kernel)
  obtain ⟨body, hbody⟩ := Option.isSome_iff_exists.mp
    (show networkRead.result.isSome = true by decide +kernel)
  have hexact : ReadExactly (fun q => (q.num : ℚ)) exactMillis networkRun :=
    ⟨rfl, rfl, fun port _ => by rw [Rat.num_intCast]⟩
  refine ⟨body, hbody, (run_request_taken_iff readsJson_jsonText exactMillis_keeps hsent intFormat
    hexact hreach hbody networkAsked).mpr ⟨?_, ?_, asked_networkRun⟩⟩
  · show networkData.length < jsonBodyMax
    decide +kernel
  · show networkRead.total = networkData.length
    decide +kernel

end DragonBench
