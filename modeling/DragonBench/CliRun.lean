/-
  File:      DragonBench/CliRun.lean
  Subject:   THE NUMBERS THE CLI SENDS: `execute` against the checks of `runs_post` and of
             `db_request_validate`.

  The client takes a duration in seconds, greater than zero, and sends whole milliseconds; the
  device takes one millisecond and more. The client holds a port to the device's range and leaves
  the rate to whatever `int` reads.

  * `executeRun` -- the command `run` up to its request;
  * `onDevice` -- the body as the device reads it;
  * `NumbersPass` -- no number of a body is refused;
  * `half_millisecond_refused` -- a duration the client takes and the device does not;
  * **`cli_numbers_pass_iff`** -- when the numbers of a request pass.
-/
import DragonBench.Fields
import DragonBench.Lib.Utf8

namespace DragonBench

open Json

/-! ## 1. The command `run` -/

/-- `int` of a number: truncated towards zero. -/
def pyInt (q : ℚ) : Int := if 0 ≤ q then ⌊q⌋ else ⌈q⌉

/-- `duration * 1000`, when the duration is a number without rounding. -/
def exactMillis (seconds : ℚ) : ℚ := seconds * 1000

/-- What a product that rounds to the nearest number keeps: an hour of seconds is an hour of
    milliseconds at most. -/
def KeepsHour (millis : ℚ → ℚ) : Prop :=
  ∀ seconds, 0 < seconds → seconds ≤ 3600 → 0 ≤ millis seconds ∧ millis seconds ≤ 3600000

theorem exactMillis_keeps : KeepsHour exactMillis := by
  intro seconds h0 h1
  unfold exactMillis
  exact ⟨by positivity, by linarith⟩

/-- The arguments of `run`. -/
structure RunArgs where
  workload : CText
  duration : ℚ
  targetHost : Option CText
  port : Option Int
  rate : Int

/-- What `Client.request` is called with. -/
structure ClientCall where
  method : CText
  path : CText
  body : List (CText × Json)

/-- The body of the request. An empty target host is left out like none. -/
def runBody (upper : CText → CText) (millis : ℚ → ℚ) (args : RunArgs) : List (CText × Json) :=
  [("workload".toList, .str (upper args.workload)),
    ("duration_ms".toList, .num (pyInt (millis args.duration))),
    ("rate_bps".toList, .num args.rate)] ++
  (match args.targetHost with
    | none | some [] => []
    | some host => [("host".toList, .str host)]) ++
  match args.port with
    | none => []
    | some port => [("port".toList, .num port)]

/-- **`execute` for `run`**: the text of a `ClientError`, or the request. `upper` is `str.upper`, and
    `millis` the product of a duration with 1000. -/
def executeRun (upper : CText → CText) (millis : ℚ → ℚ) (args : RunArgs) :
    Except CText ClientCall :=
  if args.duration ≤ 0 ∨ args.duration > 3600 then
    .error "duration must be >0 and <=3600 seconds".toList
  else if args.port.any (fun port => !decide (1 ≤ port ∧ port ≤ 65535)) = true then
    .error "port must be 1..65535".toList
  else .ok ⟨"POST".toList, "/api/v1/runs".toList, runBody upper millis args⟩

/-- A body as the device reads it: its strings are UTF-8 bytes. -/
def onDevice (body : List (CText × Json)) : Option Json := some ((Json.obj body).mapStr utf8)

/-! ## 2. The checks -/

/-- **No number of the body is refused**, by `runs_post` or by `db_request_validate`: a request
    with these numbers is valid when its workload needs nothing the body does not bring. -/
def NumbersPass (body : Option Json) : Prop :=
  ∃ durationMs port rateBps, durationField body = some durationMs ∧ portField body = some port ∧
    rateField body = some rateBps ∧
      ∀ workload host, (isNetwork workload = true → (bodyItem body "port".toList).isSome = true ∧
        host ≠ [] ∧ ∀ c ∈ host, isHostChar c = true) →
          dbRequestValidate ⟨workload, durationMs, rateBps, port, host⟩ = .ok ()

/-- **A whole number is taken when it lies in its range.** -/
theorem int_taken_iff {field : Option Nat} {item : Option Json} {lo hi : ℚ} {n : Int}
    (hfield : field = none ↔ ∃ q, item.bind valuedouble = some q ∧ OutOfRange lo hi q)
    (hitem : item = some (.num n)) (hlo : 0 ≤ lo) : field ≠ none ↔ lo ≤ n ∧ (n : ℚ) ≤ hi := by
  rw [Ne, hfield, hitem]
  constructor
  · intro hn
    exact ⟨not_lt.mp fun hq => hn ⟨n, rfl, Or.inl hq⟩,
      not_lt.mp fun hq => hn ⟨n, rfl, Or.inr (Or.inl hq)⟩⟩
  · rintro ⟨h1, h2⟩ ⟨_, ⟨⟩, hq | hq | hq⟩
    · exact absurd h1 (not_le.mpr hq)
    · exact absurd h2 (not_le.mpr hq)
    · have hn : 0 ≤ n := by exact_mod_cast le_trans hlo h1
      exact hq n.toNat (by exact_mod_cast (Int.toNat_of_nonneg hn).symm)

section Body

variable (upper : CText → CText) (millis : ℚ → ℚ) (args : RunArgs)

/-- **What the device finds in the body.** -/
theorem bodyItem_onDevice :
    bodyItem (onDevice (runBody upper millis args)) "duration_ms".toList =
        some (.num (pyInt (millis args.duration))) ∧
      bodyItem (onDevice (runBody upper millis args)) "rate_bps".toList = some (.num args.rate) ∧
      bodyItem (onDevice (runBody upper millis args)) "port".toList =
        args.port.map fun port => .num port := by
  have h1 : utf8 "workload".toList = "workload".toList := utf8_ascii (CText.forall_of_all (by decide))
  have h2 : utf8 "duration_ms".toList = "duration_ms".toList :=
    utf8_ascii (CText.forall_of_all (by decide))
  have h3 : utf8 "rate_bps".toList = "rate_bps".toList := utf8_ascii (CText.forall_of_all (by decide))
  have h4 : utf8 "host".toList = "host".toList := utf8_ascii (CText.forall_of_all (by decide))
  have h5 : utf8 "port".toList = "port".toList := utf8_ascii (CText.forall_of_all (by decide))
  obtain ⟨workload, duration, targetHost, port, rate⟩ := args
  rcases targetHost with - | - | ⟨c, cs⟩ <;> cases port
  all_goals
    simp only [onDevice, runBody, mapStr, mapStrMembers, List.cons_append, List.nil_append, h1, h2,
      h3, h4, h5]
    exact ⟨rfl, rfl, rfl⟩

end Body

/-! ## 3. What the client lets through -/

section Sent

variable {upper : CText → CText} {millis : ℚ → ℚ} {args : RunArgs} {call : ClientCall}

/-- **A request that is sent** has a duration of the client's range, and a port of the device's. -/
theorem executeRun_ok (h : executeRun upper millis args = .ok call) :
    0 < args.duration ∧ args.duration ≤ 3600 ∧
      (∀ port, args.port = some port → 1 ≤ port ∧ port ≤ 65535) ∧
      call.body = runBody upper millis args := by
  unfold executeRun at h
  split_ifs at h with hduration hport
  cases h
  rw [not_or, not_le, not_lt] at hduration
  refine ⟨hduration.1, hduration.2, fun port hp => ?_, rfl⟩
  rw [hp] at hport
  simpa using hport

/-- The milliseconds are the floor, and lie within the hour. -/
theorem pyInt_duration (hm : KeepsHour millis) (h0 : 0 < args.duration)
    (h1 : args.duration ≤ 3600) :
    pyInt (millis args.duration) = ⌊millis args.duration⌋ ∧
      (pyInt (millis args.duration) : ℚ) ≤ 3600000 := by
  obtain ⟨hpos, hhour⟩ := hm args.duration h0 h1
  rw [pyInt, if_pos hpos]
  exact ⟨rfl, le_trans (Int.floor_le _) hhour⟩

theorem duration_taken_iff (hm : KeepsHour millis) (h : executeRun upper millis args = .ok call) :
    durationField (onDevice call.body) ≠ none ↔ 1 ≤ millis args.duration := by
  obtain ⟨h0, h1, -, hbody⟩ := executeRun_ok h
  obtain ⟨hfloor, hle⟩ := pyInt_duration hm h0 h1
  rw [hbody, int_taken_iff durationField_eq_none (bodyItem_onDevice upper millis args).1 zero_le_one]
  have hone : (1 : ℚ) ≤ pyInt (millis args.duration) ↔ 1 ≤ millis args.duration := by
    rw [hfloor, ← Int.cast_one, Int.cast_le, Int.le_floor]
  exact ⟨fun hq => hone.mp hq.1, fun hd => ⟨hone.mpr hd, hle⟩⟩

theorem port_taken (h : executeRun upper millis args = .ok call) :
    portField (onDevice call.body) ≠ none := by
  obtain ⟨-, -, hrange, hbody⟩ := executeRun_ok h
  have hitem := (bodyItem_onDevice upper millis args).2.2
  rw [hbody]
  cases hp : args.port with
  | none =>
      rw [hp] at hitem
      rw [Ne, portField_eq_none, hitem]
      rintro ⟨q, hq, -⟩
      cases hq
  | some port =>
      rw [hp] at hitem
      rw [int_taken_iff portField_eq_none hitem zero_le_one]
      exact_mod_cast hrange port hp

theorem rate_taken_iff (h : executeRun upper millis args = .ok call) :
    rateField (onDevice call.body) ≠ none ↔ 0 ≤ args.rate ∧ args.rate ≤ 4294967295 := by
  obtain ⟨-, -, -, hbody⟩ := executeRun_ok h
  rw [hbody, int_taken_iff rateField_eq_none (bodyItem_onDevice upper millis args).2.1 le_rfl]
  exact_mod_cast Iff.rfl

/-- The port that is stored is not zero when the client sends one. -/
theorem port_sent {port : Nat} (h : executeRun upper millis args = .ok call)
    (hport : portField (onDevice call.body) = some port)
    (hsome : (bodyItem (onDevice call.body) "port".toList).isSome = true) : port ≠ 0 := by
  obtain ⟨-, -, hrange, hbody⟩ := executeRun_ok h
  have hseen := numericField_seen hport fun _ hlo hhi hint => portStore hlo hhi hint
  rw [hbody, (bodyItem_onDevice upper millis args).2.2] at hseen hsome
  cases hp : args.port with
  | none =>
      rw [hp] at hsome
      cases hsome
  | some p =>
      rw [hp] at hseen
      have hcast : (port : ℚ) = p := hseen
      have hp1 := (hrange p hp).1
      have heq : (port : Int) = p := by exact_mod_cast hcast
      omega

/-- **The numbers of a request pass exactly when it asks for a millisecond and the rate is one of
    32 bits.** -/
theorem cli_numbers_pass_iff (h : executeRun upper exactMillis args = .ok call) :
    NumbersPass (onDevice call.body) ↔
      1 ≤ args.duration * 1000 ∧ 0 ≤ args.rate ∧ args.rate ≤ 4294967295 := by
  have hone : durationField (onDevice call.body) ≠ none ↔ 1 ≤ args.duration * 1000 :=
    duration_taken_iff exactMillis_keeps h
  rw [← hone, ← rate_taken_iff h]
  constructor
  · rintro ⟨durationMs, port, rateBps, hd, -, hr, -⟩
    rw [hd, hr]
    exact ⟨Option.some_ne_none _, Option.some_ne_none _⟩
  · rintro ⟨hduration, hrate⟩
    obtain ⟨durationMs, hd⟩ := Option.ne_none_iff_exists'.mp hduration
    obtain ⟨port, hp⟩ := Option.ne_none_iff_exists'.mp (port_taken h)
    obtain ⟨rateBps, hr⟩ := Option.ne_none_iff_exists'.mp hrate
    refine ⟨durationMs, port, rateBps, hd, hp, hr, fun workload host hneeds => ?_⟩
    refine dbRequestValidate_of (durationField_range hd).1 (durationField_range hd).2 fun hnet => ?_
    obtain ⟨hsome, hne, hchars⟩ := hneeds hnet
    exact ⟨hne, port_sent h hp hsome, hchars⟩

end Sent

/-- `str.upper` of an ASCII text. -/
def asciiUpper (s : CText) : CText := s.map Char.toUpper

/-- Half a millisecond is more than nothing, and no milliseconds. -/
def halfMillisecond : RunArgs := ⟨"idle".toList, 1 / 2000, none, none, 0⟩

/-- **A request is sent that the device refuses for its duration.** -/
theorem half_millisecond_refused :
    ¬ ∀ (args : RunArgs) (call : ClientCall), executeRun asciiUpper exactMillis args = .ok call →
      NumbersPass (onDevice call.body) := by
  intro h
  have hsent : executeRun asciiUpper exactMillis halfMillisecond =
      .ok ⟨"POST".toList, "/api/v1/runs".toList, runBody asciiUpper exactMillis halfMillisecond⟩ := by
    unfold executeRun
    rw [if_neg (by norm_num [halfMillisecond]), if_neg (by simp [halfMillisecond])]
  obtain ⟨durationMs, port, rateBps, hd, -⟩ := h halfMillisecond _ hsent
  have hfield : durationField (onDevice (runBody asciiUpper exactMillis halfMillisecond)) ≠ none := by
    rw [hd]
    exact Option.some_ne_none _
  have hone := (duration_taken_iff exactMillis_keeps hsent).mp hfield
  norm_num [halfMillisecond, exactMillis] at hone

/-- `dragonbench run net_tx --duration 2.5 --target-host 192.168.8.2 --port 9000`. -/
def networkRun : RunArgs :=
  ⟨"net_tx".toList, 5 / 2, some "192.168.8.2".toList, some 9000, 0⟩

theorem cli_numbers_pass_network :
    NumbersPass (onDevice (runBody asciiUpper exactMillis networkRun)) := by
  have hsent : executeRun asciiUpper exactMillis networkRun =
      .ok ⟨"POST".toList, "/api/v1/runs".toList, runBody asciiUpper exactMillis networkRun⟩ := by
    unfold executeRun
    rw [if_neg (by norm_num [networkRun]), if_neg (by simp [networkRun])]
  exact (cli_numbers_pass_iff hsent).mpr (by norm_num [networkRun])

end DragonBench
