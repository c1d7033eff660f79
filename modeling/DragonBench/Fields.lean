/-
  File:      DragonBench/Fields.lean
  Subject:   THE FIELDS OF A RUN REQUEST: what `openapi.yaml` says they are, and what becomes of a
             body that says otherwise.

  A number out of its range makes `runs_post` refuse the body. A field of the wrong JSON type, or a
  host that does not fit its buffer, is passed over as if it were absent; a string with a NUL is
  cut there, and so is the name of a member.

  * `FieldType`, `runsSchema` -- the schema of the body;
  * `Conforms` -- the request that was stored is the one the body describes;
  * `FieldsSound` -- the bodies nothing is passed over in;
  * `Refused` -- the bodies that are refused, `refused_iff`;
  * **`runs_post_conforms_iff`** -- a run starts as its body describes it exactly for the sound
    ones among the accepted bodies.
-/
import DragonBench.DeviceStep

namespace DragonBench

/-! ## 1. The schema -/

/-- The types `openapi.yaml` gives the fields. -/
inductive FieldType where
  | string (maxLength : Option Nat)
  | integer (minimum : Nat) (maximum : Option Nat)
  deriving DecidableEq, Repr

/-- The number of characters of a UTF-8 text: its bytes without the continuation bytes. -/
def utf8Length (s : CText) : Nat :=
  s.countP fun c => decide (¬ (0x80 ≤ c.toNat ∧ c.toNat < 0xC0))

/-- A value of the type. -/
def FieldType.Accepts : FieldType → Json → Prop
  | .string maxLength, .str s => ∀ m ∈ maxLength, utf8Length s ≤ m
  | .integer minimum maximum, .num q =>
    ∃ n : Nat, q = n ∧ minimum ≤ n ∧ ∀ m ∈ maximum, n ≤ m
  | _, _ => False

/-- The properties of the request body of `POST /api/v1/runs`. -/
def runsSchema : List (CText × FieldType) :=
  [("workload".toList, .string none),
    ("duration_ms".toList, .integer 1 (some 3600000)),
    ("host".toList, .string (some 253)),
    ("port".toList, .integer 1 (some 65535)),
    ("rate_bps".toList, .integer 0 none)]

/-- The member of exactly this name; of several the first. -/
def bodyMember (body : Option Json) (name : CText) : Option Json :=
  body.bind fun
    | .obj ms => (ms.find? fun m => decide (m.1 = name)).map Prod.snd
    | _ => none

/-- **The request is the one the body describes**: every field present is of its type, the request
    carries its value, and a default stands only where a field is absent. -/
structure Conforms (body : Option Json) (r : DbRunRequest) : Prop where
  typed : ∀ f ∈ runsSchema, ∀ v, bodyMember body f.1 = some v → f.2.Accepts v
  workload : bodyMember body "workload".toList = some (.str (dbWorkloadName r.workload))
  durationMs : (bodyMember body "duration_ms".toList).getD (.num 30000) = .num r.durationMs
  host : (bodyMember body "host".toList).getD (.str []) = .str r.host
  port : (bodyMember body "port".toList).getD (.num 0) = .num r.port
  rateBps : (bodyMember body "rate_bps".toList).getD (.num 0) = .num r.rateBps

/-! ## 2. The bodies nothing is passed over in -/

/-- The number the device sees in a member, or the default. -/
def seenNumber (dflt : ℚ) (item : Option Json) : ℚ := (item.bind valuedouble).getD dflt

/-- The host the device sees in a member: a string that fits, or nothing. -/
def seenHost (item : Option Json) : CText :=
  ((item.bind valuestring).filter fun s => decide (s.length < dbHostLen)).getD []

/-- A numeric field that is present is a number not below its minimum, and is seen as it is, also
    where the device takes a member of a cut name for it. -/
def NumberSound (body : Option Json) (name : CText) (minimum dflt : Nat) : Prop :=
  (∀ v, bodyMember body name = some v → ∃ q, v = .num q ∧ (minimum : ℚ) ≤ q) ∧
    seenNumber dflt (bodyItem body name) = seenNumber dflt (bodyMember body name)

/-- The host, if present, is a string without NUL of less than `DB_HOST_LEN` bytes. -/
def HostSound (body : Option Json) : Prop :=
  (∀ v, bodyMember body "host".toList = some v →
      ∃ s, v = .str s ∧ '\x00' ∉ s ∧ s.length < dbHostLen) ∧
    seenHost (bodyItem body "host".toList) = seenHost (bodyMember body "host".toList)

/-- The workload is a string without NUL. -/
def WorkloadSound (body : Option Json) : Prop :=
  (∀ v, bodyMember body "workload".toList = some v → ∃ s, v = .str s ∧ '\x00' ∉ s) ∧
    (bodyItem body "workload".toList).bind valuestring =
      (bodyMember body "workload".toList).bind valuestring

/-- **The bodies nothing is passed over in.** -/
structure FieldsSound (body : Option Json) : Prop where
  workload : WorkloadSound body
  durationMs : NumberSound body "duration_ms".toList 1 30000
  host : HostSound body
  port : NumberSound body "port".toList 1 0
  rateBps : NumberSound body "rate_bps".toList 0 0

/-! ## 3. The bodies that are refused -/

/-- A number outside a range, or with a fraction. -/
def OutOfRange (lo hi q : ℚ) : Prop := q < lo ∨ hi < q ∨ ∀ n : ℕ, q ≠ n

/-- The numeric fields and the ranges they are held to. -/
def numericRanges : List (CText × ℚ × ℚ) :=
  [("duration_ms".toList, 1, 3600000), ("port".toList, 1, 65535),
    ("rate_bps".toList, 0, 4294967295)]

/-- **The bodies that are refused**: the workload names none, a number is out of its range, or a
    network workload comes without a port or without a host of permitted characters. -/
inductive Refused (body : Option Json) : Prop where
  | workload (h : ∀ t, (bodyItem body "workload".toList).bind valuestring = some t →
      dbWorkloadParse t = none)
  | number {name : CText} {lo hi q : ℚ} (hf : (name, lo, hi) ∈ numericRanges)
      (hq : (bodyItem body name).bind valuedouble = some q) (h : OutOfRange lo hi q)
  | network {t : CText} {w : DbWorkload}
      (ht : (bodyItem body "workload".toList).bind valuestring = some t)
      (hw : dbWorkloadParse t = some w) (hn : isNetwork w = true)
      (h : seenNumber 0 (bodyItem body "port".toList) = 0 ∨
        seenHost (bodyItem body "host".toList) = [] ∨
        ∃ c ∈ seenHost (bodyItem body "host".toList), isHostChar c = false)

/-- A number in the range fits the type the handler casts it to. -/
theorem outOfRange_iff {width : ℕ} {lo hi q : ℚ} (h : hi < 2 ^ width) :
    (q < lo ∨ q > hi ∨ q ≠ ((⌊q⌋.toNat % 2 ^ width : ℕ) : ℚ)) ↔ OutOfRange lo hi q := by
  constructor
  · rintro (hq | hq | hq)
    · exact Or.inl hq
    · exact Or.inr (Or.inl hq)
    · by_cases hhi : hi < q
      · exact Or.inr (Or.inl hhi)
      · refine Or.inr (Or.inr fun n e => hq ?_)
        have hn : n < 2 ^ width := by
          rw [e] at hhi
          exact_mod_cast lt_of_le_of_lt (not_lt.mp hhi) h
        rw [e, Int.floor_natCast, Int.toNat_natCast, Nat.mod_eq_of_lt hn]
  · rintro (hq | hq | hq)
    · exact Or.inl hq
    · exact Or.inr (Or.inl hq)
    · exact Or.inr (Or.inr (hq _))

/-- A field clears `parsed` for a number out of its range. -/
theorem numericField_none_iff {item : Option Json} {lo hi : ℚ} {cast store : ℚ → Nat}
    {dflt : Nat} (width : ℕ) (hcast : ∀ q, cast q = ⌊q⌋.toNat % 2 ^ width) (h : hi < 2 ^ width) :
    numericField item lo hi cast store dflt = none ↔
      ∃ q, item.bind valuedouble = some q ∧ OutOfRange lo hi q := by
  rw [numericField_eq_none]
  refine exists_congr fun q => and_congr_right fun _ => ?_
  rw [hcast]
  exact outOfRange_iff h

section Ranges

variable {body : Option Json}

theorem durationField_eq_none : durationField body = none ↔
    ∃ q, (bodyItem body "duration_ms".toList).bind valuedouble = some q ∧
      OutOfRange 1 3600000 q :=
  numericField_none_iff 32 (fun _ => rfl) (by norm_num)

theorem portField_eq_none : portField body = none ↔
    ∃ q, (bodyItem body "port".toList).bind valuedouble = some q ∧ OutOfRange 1 65535 q :=
  numericField_none_iff 16 (fun _ => rfl) (by norm_num)

theorem rateField_eq_none : rateField body = none ↔
    ∃ q, (bodyItem body "rate_bps".toList).bind valuedouble = some q ∧
      OutOfRange 0 4294967295 q :=
  numericField_none_iff 32 (fun _ => rfl) (by norm_num)

end Ranges

/-! ## 4. Field by field -/

section Fields

variable {body : Option Json}

/-- What a numeric field stores is what is seen. -/
theorem numericField_seen {item : Option Json} {lo hi : ℚ} {cast store : ℚ → Nat} {dflt n : Nat}
    (h : numericField item lo hi cast store dflt = some n)
    (hs : ∀ q, lo ≤ q → q ≤ hi → q = (cast q : ℚ) → store q = cast q) :
    (n : ℚ) = seenNumber dflt item := by
  unfold seenNumber
  rcases numericField_some h with ⟨hnone, rfl⟩ | ⟨q, hq, hlo, hhi, hint, rfl⟩
  · rw [hnone]
    rfl
  · rw [hq, hs q hlo hhi hint, ← hint]
    rfl

/-- A numeric field conforms exactly when it is sound. -/
theorem number_conforms_iff (minimum : Nat) (maximum : Option Nat) {name : CText} {dflt n : Nat}
    (hn : (n : ℚ) = seenNumber dflt (bodyItem body name)) (hmax : ∀ m ∈ maximum, n ≤ m) :
    ((∀ v, bodyMember body name = some v → (FieldType.integer minimum maximum).Accepts v) ∧
        (bodyMember body name).getD (.num dflt) = .num n) ↔
      NumberSound body name minimum dflt := by
  unfold NumberSound
  rw [← hn]
  cases hm : bodyMember body name with
  | none =>
      constructor
      · rintro ⟨-, e⟩
        cases e
        exact ⟨fun v hv => (by cases hv), rfl⟩
      · rintro ⟨-, e⟩
        refine ⟨fun v hv => (by cases hv), ?_⟩
        rw [e]
        rfl
  | some v =>
      constructor
      · rintro ⟨hacc, e⟩
        have hv : v = .num n := e
        obtain ⟨k, hk, hmin, -⟩ := hv ▸ hacc v rfl
        refine ⟨fun v' hv' => ?_, by rw [hv]; rfl⟩
        cases hv'
        refine ⟨n, hv, ?_⟩
        rw [hk]
        exact_mod_cast hmin
      · rintro ⟨hnum, e⟩
        obtain ⟨q, rfl, hmin⟩ := hnum v rfl
        have hq : (n : ℚ) = q := e
        refine ⟨fun v' hv' => ?_, by rw [hq]; rfl⟩
        cases hv'
        refine ⟨n, hq.symm, ?_, hmax⟩
        rw [← hq] at hmin
        exact_mod_cast hmin

/-- The host that is stored is the one that is seen. -/
theorem hostField_seen (body : Option Json) :
    hostField body = seenHost (bodyItem body "host".toList) := by
  unfold hostField seenHost
  cases (bodyItem body "host".toList).bind valuestring with
  | none => rfl
  | some s =>
      dsimp only
      by_cases hlt : s.length < dbHostLen
      · rw [if_pos hlt, CText.snprintf_of_lt hlt, Option.filter_some, if_pos (decide_eq_true hlt)]
        rfl
      · rw [if_neg hlt, Option.filter_some, if_neg (by rwa [decide_eq_true_iff])]
        rfl

theorem host_conforms_iff (body : Option Json) :
    ((∀ v, bodyMember body "host".toList = some v → (FieldType.string (some 253)).Accepts v) ∧
        (bodyMember body "host".toList).getD (.str []) = .str (hostField body)) ↔
      HostSound body := by
  obtain ⟨hlen, hnul⟩ := hostField_fits body
  have hseen := hostField_seen body
  unfold HostSound
  rw [← hseen]
  cases hm : bodyMember body "host".toList with
  | none =>
      constructor
      · rintro ⟨-, e⟩
        refine ⟨fun v hv => (by cases hv), ?_⟩
        exact (Json.str.inj e).symm
      · rintro ⟨-, e⟩
        refine ⟨fun v hv => (by cases hv), ?_⟩
        rw [e]
        rfl
  | some v =>
      constructor
      · rintro ⟨-, e⟩
        have hv : v = .str (hostField body) := e
        refine ⟨fun v' hv' => ?_, ?_⟩
        · cases hv'
          exact ⟨_, hv, hnul, hlen⟩
        · rw [hv]
          unfold seenHost
          rw [Option.bind_some, valuestring, cstr_of_not_mem hnul, Option.filter_some,
            if_pos (decide_eq_true hlen)]
          rfl
      · rintro ⟨hstr, e⟩
        obtain ⟨s, rfl, hs, hl⟩ := hstr v rfl
        have hval : hostField body = s := by
          rw [e]
          unfold seenHost
          rw [Option.bind_some, valuestring, cstr_of_not_mem hs, Option.filter_some,
            if_pos (decide_eq_true hl)]
          rfl
        refine ⟨fun v' hv' => ?_, by rw [hval]; rfl⟩
        cases hv'
        intro m hm'
        cases hm'
        exact le_trans List.countP_le_length (Nat.le_of_lt_succ hl)

theorem workload_conforms_iff {w : DbWorkload} (hw : workloadField body = some w) :
    ((∀ v, bodyMember body "workload".toList = some v → (FieldType.string none).Accepts v) ∧
        bodyMember body "workload".toList = some (.str (dbWorkloadName w))) ↔
      WorkloadSound body := by
  obtain ⟨s, hs, hparse⟩ := Option.bind_eq_some_iff.mp hw
  have hname : s = dbWorkloadName w := by
    have hfound := List.find?_some hparse
    exact of_decide_eq_true hfound
  subst hname
  have hnul : '\x00' ∉ dbWorkloadName w := by
    cases w <;> decide
  unfold WorkloadSound
  rw [hs]
  constructor
  · rintro ⟨-, hm⟩
    refine ⟨fun v hv => ⟨_, Option.some.inj (hv.symm.trans hm), hnul⟩, ?_⟩
    rw [hm, Option.bind_some, valuestring, cstr_of_not_mem hnul]
  · rintro ⟨hstr, e⟩
    obtain ⟨v, hv, hval⟩ := Option.bind_eq_some_iff.mp e.symm
    obtain ⟨t, rfl, ht⟩ := hstr v hv
    rw [valuestring, cstr_of_not_mem ht] at hval
    cases hval
    refine ⟨fun v' hv' => ?_, hv⟩
    rw [hv] at hv'
    cases hv'
    rintro m ⟨⟩

end Fields

/-! ## 5. The request -/

/-- Inside its range `valueint` is the number itself. -/
theorem portStore {q : ℚ} (hlo : 1 ≤ q) (hhi : q ≤ 65535) (h : q = (toUint16 q : ℚ)) :
    (valueint q % 2 ^ 16).toNat = toUint16 q := by
  unfold valueint
  rw [if_neg (by linarith), if_neg (by linarith), if_pos (by linarith)]
  have hq : ⌊q⌋ = (toUint16 q : ℤ) :=
    (congrArg Int.floor h).trans (Int.floor_natCast _)
  have hlt : toUint16 q < 2 ^ 16 := Nat.mod_lt _ (by omega)
  rw [hq]
  omega

/-- **An accepted request conforms exactly when the body is sound.** -/
theorem conforms_iff {body : Option Json} {r : DbRunRequest} (h : runsPostRequest body = .ok r) :
    Conforms body r ↔ FieldsSound body := by
  obtain ⟨hw, hd, hp, hr, hh, hv⟩ := runsPostRequest_eq_ok.mp h
  have hd' := numericField_seen hd fun _ _ _ _ => rfl
  have hp' := numericField_seen hp fun _ hlo hhi hint => portStore hlo hhi hint
  have hr' := numericField_seen hr fun _ _ _ _ => rfl
  have hdle : ∀ m ∈ some 3600000, r.durationMs ≤ m := by
    rintro m ⟨⟩
    exact (dbRequestValidate_ok hv).2.1
  have hple : ∀ m ∈ some 65535, r.port ≤ m := by
    rintro m ⟨⟩
    have := (runsPostRequest_ok h).2.2.1
    omega
  have W := workload_conforms_iff hw
  have D := number_conforms_iff 1 (some 3600000) hd' hdle
  have H := host_conforms_iff body
  have P := number_conforms_iff 1 (some 65535) hp' hple
  have R := number_conforms_iff 0 none hr' (by rintro m ⟨⟩)
  rw [← hh] at H
  constructor
  · rintro ⟨ht, c1, c2, c3, c4, c5⟩
    simp only [runsSchema, List.forall_mem_cons, List.not_mem_nil] at ht
    obtain ⟨t1, t2, t3, t4, t5, -⟩ := ht
    exact ⟨W.mp ⟨t1, c1⟩, D.mp ⟨t2, c2⟩, H.mp ⟨t3, c3⟩, P.mp ⟨t4, c4⟩, R.mp ⟨t5, c5⟩⟩
  · rintro ⟨w, d, hs, p, r'⟩
    obtain ⟨t1, c1⟩ := W.mpr w
    obtain ⟨t2, c2⟩ := D.mpr d
    obtain ⟨t3, c3⟩ := H.mpr hs
    obtain ⟨t4, c4⟩ := P.mpr p
    obtain ⟨t5, c5⟩ := R.mpr r'
    refine ⟨?_, c1, c2, c3, c4, c5⟩
    simp only [runsSchema, List.forall_mem_cons, List.not_mem_nil]
    exact ⟨t1, t2, t3, t4, t5, fun _ hf => absurd hf id⟩

/-- The numbers of a body that is not refused are taken. -/
theorem fields_taken {body : Option Json} (h : ¬ Refused body) :
    ∃ durationMs port rateBps, durationField body = some durationMs ∧
      portField body = some port ∧ rateField body = some rateBps := by
  have hduration : durationField body ≠ none := fun e => by
    obtain ⟨q, hq, hr⟩ := durationField_eq_none.mp e
    exact h (.number (by simp [numericRanges]) hq hr)
  have hport : portField body ≠ none := fun e => by
    obtain ⟨q, hq, hr⟩ := portField_eq_none.mp e
    exact h (.number (by simp [numericRanges]) hq hr)
  have hrate : rateField body ≠ none := fun e => by
    obtain ⟨q, hq, hr⟩ := rateField_eq_none.mp e
    exact h (.number (by simp [numericRanges]) hq hr)
  obtain ⟨durationMs, hd⟩ := Option.ne_none_iff_exists'.mp hduration
  obtain ⟨port, hp⟩ := Option.ne_none_iff_exists'.mp hport
  obtain ⟨rateBps, hr⟩ := Option.ne_none_iff_exists'.mp hrate
  exact ⟨durationMs, port, rateBps, hd, hp, hr⟩

/-- An accepted body is not among them. -/
theorem not_refused {body : Option Json} {r : DbRunRequest} (h : runsPostRequest body = .ok r) :
    ¬ Refused body := by
  intro hr
  have F := runsPostRequest_eq_ok.mp h
  obtain ⟨t, ht, hw⟩ := Option.bind_eq_some_iff.mp F.workload
  cases hr with
  | workload h =>
      rw [h t ht] at hw
      cases hw
  | number hf hq h =>
      simp only [numericRanges, List.mem_cons, List.not_mem_nil, or_false, Prod.mk.injEq] at hf
      rcases hf with ⟨rfl, rfl, rfl⟩ | ⟨rfl, rfl, rfl⟩ | ⟨rfl, rfl, rfl⟩
      · cases F.durationMs.symm.trans (durationField_eq_none.mpr ⟨_, hq, h⟩)
      · cases F.port.symm.trans (portField_eq_none.mpr ⟨_, hq, h⟩)
      · cases F.rateBps.symm.trans (rateField_eq_none.mpr ⟨_, hq, h⟩)
  | network ht' hw' hn h =>
      rw [Option.some.inj (ht'.symm.trans ht), hw] at hw'
      cases hw'
      obtain ⟨hne, hport, hchars⟩ := (dbRequestValidate_ok F.valid).2.2 hn
      rw [F.host, hostField_seen] at hne hchars
      rcases h with h | h | ⟨c, hc, h⟩
      · have hseen := numericField_seen F.port fun _ hlo hhi hint => portStore hlo hhi hint
        exact hport (by exact_mod_cast hseen.trans h)
      · exact hne h
      · rw [hchars c hc] at h
        cases h

/-- **`Refused` is what `runs_post` refuses.** -/
theorem refused_iff (body : Option Json) :
    Refused body ↔ ∀ r, runsPostRequest body ≠ .ok r := by
  refine ⟨fun hr r h => not_refused h hr, fun h => ?_⟩
  by_contra hn
  obtain ⟨durationMs, port, rateBps, hd, hp, hr⟩ := fields_taken hn
  have hworkload : workloadField body ≠ none := fun e => by
    refine hn (.workload fun t ht => ?_)
    rw [workloadField, ht] at e
    exact e
  obtain ⟨w, hw⟩ := Option.ne_none_iff_exists'.mp hworkload
  refine h ⟨w, durationMs, rateBps, port, hostField body⟩
    (runsPostRequest_eq_ok.mpr ⟨hw, hd, hp, hr, rfl, dbRequestValidate_of
      (durationField_range hd).1 (durationField_range hd).2 fun hnet => ?_⟩)
  obtain ⟨t, ht, hparse⟩ := Option.bind_eq_some_iff.mp hw
  have hseen := numericField_seen hp fun _ hlo hhi hint => portStore hlo hhi hint
  dsimp only
  rw [hostField_seen]
  refine ⟨fun e => hn (.network ht hparse hnet (Or.inr (Or.inl e))), fun e => ?_,
    fun c hc => ?_⟩
  · refine hn (.network ht hparse hnet (Or.inl ?_))
    exact_mod_cast hseen.symm.trans (congrArg Nat.cast e)
  · by_contra hc'
    exact hn (.network ht hparse hnet
      (Or.inr (Or.inr ⟨c, hc, Bool.eq_false_of_not_eq_true hc'⟩)))

/-- **A run that starts carries the request its body describes**, whatever the device. -/
def StartsConforming (body : Option Json) : Prop :=
  ∀ (B : Boot) (d : Device), d.http = .idle → (runsPost B d body).http = .creating →
    Conforms body (runsPost B d body).shared.run.request

/-- Whether `runs_post` begins a run. -/
theorem runsPost_begins {B : Boot} {d : Device} {body : Option Json} (hh : d.http = .idle)
    (h : (runsPost B d body).http = .creating) :
    ∃ r, runsPostRequest body = .ok r ∧ (runsPost B d body).shared.run.request = r := by
  rcases runsPost_eq B d body with e | ⟨r, hr, -, e⟩
  · rw [e, hh] at h
    cases h
  · rw [e]
    exact ⟨r, hr, rfl⟩

/-- **The runs that start conform** exactly for the bodies that are refused or sound. -/
theorem runs_post_conforms_iff (body : Option Json) :
    StartsConforming body ↔ Refused body ∨ FieldsSound body := by
  rw [refused_iff]
  unfold StartsConforming
  constructor
  · intro h
    by_cases hr : ∃ r, runsPostRequest body = .ok r
    · obtain ⟨r, hr⟩ := hr
      -- a device without a run starts it
      have hbegin : runsPost benchBoot { Device.initial ⟨0, []⟩ with http := .idle } body =
          beginRun benchBoot { Device.initial ⟨0, []⟩ with http := .idle } r := by
        unfold runsPost
        rw [hr]
        rfl
      have hc := h benchBoot { Device.initial ⟨0, []⟩ with http := .idle } rfl
        (by rw [hbegin]; rfl)
      rw [hbegin] at hc
      exact Or.inr ((conforms_iff hr).mp hc)
    · exact Or.inl fun r e => hr ⟨r, e⟩
  · rintro h B d hh hb
    obtain ⟨r, hr, e⟩ := runsPost_begins hh hb
    rw [e]
    exact (conforms_iff hr).mpr (h.resolve_left fun hn => hn r hr)

/-- **A text for a number is passed over**: five milliseconds in quotes start a run of half a
    minute. -/
theorem duration_text_passed_over :
    ¬ StartsConforming (some (.obj [("workload".toList, .str "IDLE".toList),
      ("duration_ms".toList, .str "5".toList)])) := by
  intro h
  have hc := h benchBoot { Device.initial ⟨0, []⟩ with http := .idle } rfl (by decide)
  have e : Json.str "5".toList = .num _ := hc.durationMs
  cases e

end DragonBench
