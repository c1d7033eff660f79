/-
  File:      DragonBench/RunsPost.lean
  Subject:   What `runs_post` makes of a request body, up to its validation.

  `runsPostRequest` follows the handler field by field. Each numeric field has the same shape: a
  member that is no number is skipped, a number outside the range or with a fraction clears
  `parsed`, any other number is stored. The workload has to parse; the host is copied when it is a
  string that fits. A body that could not be read is `none` (`read_body` returned NULL).
-/
import DragonBench.CJson
import DragonBench.Run

namespace DragonBench

/-- A member of the body, when there is a body. -/
def bodyItem (body : Option Json) (name : CText) : Option Json := body.bind (getObjectItem name)

/-- `(uint32_t)` of a non-negative double. -/
def toUint32 (q : ℚ) : Nat := ⌊q⌋.toNat % 2 ^ 32

/-- `(uint16_t)` of a non-negative double. -/
def toUint16 (q : ℚ) : Nat := ⌊q⌋.toNat % 2 ^ 16

/-- One numeric field: `none` clears `parsed`, `some n` is what the request holds afterwards. -/
def numericField (item : Option Json) (lo hi : ℚ) (cast : ℚ → Nat) (store : ℚ → Nat)
    (dflt : Nat) : Option Nat :=
  match item.bind valuedouble with
  | none => some dflt
  | some q => if q < lo ∨ q > hi ∨ q ≠ (cast q : ℚ) then none else some (store q)

/-- The field `duration_ms`. -/
def durationField (body : Option Json) : Option Nat :=
  numericField (bodyItem body "duration_ms".toList) 1 3600000 toUint32 toUint32 30000

/-- The field `port`; the value stored is the node's `valueint`. -/
def portField (body : Option Json) : Option Nat :=
  numericField (bodyItem body "port".toList) 1 65535 toUint16
    (fun q => ((valueint q) % 2 ^ 16).toNat) 0

/-- The field `rate_bps`. -/
def rateField (body : Option Json) : Option Nat :=
  numericField (bodyItem body "rate_bps".toList) 0 4294967295 toUint32 toUint32 0

/-- The field `host`: a string that fits is copied, anything else leaves it empty. -/
def hostField (body : Option Json) : CText :=
  match (bodyItem body "host".toList).bind valuestring with
  | none => []
  | some s => if s.length < dbHostLen then CText.snprintf dbHostLen s else []

/-- The field `workload`. -/
def workloadField (body : Option Json) : Option DbWorkload :=
  ((bodyItem body "workload".toList).bind valuestring).bind dbWorkloadParse

/-- The request of a body, or the error text of the 400 answer. -/
def runsPostRequest (body : Option Json) : Except CText DbRunRequest :=
  match workloadField body, durationField body, portField body, rateField body with
  | some workload, some durationMs, some port, some rateBps =>
    let request : DbRunRequest := ⟨workload, durationMs, rateBps, port, hostField body⟩
    match dbRequestValidate request with
    | .ok () => .ok request
    | .error validation => .error validation
  | _, _, _, _ => .error "invalid workload".toList

/-! ## What an accepted request meets -/

section Numeric

variable {item : Option Json} {lo hi : ℚ} {cast store : ℚ → Nat} {dflt n b : Nat}

/-- **A numeric field** holds its default where no number was read, or a number of its range. -/
theorem numericField_some (h : numericField item lo hi cast store dflt = some n) :
    item.bind valuedouble = none ∧ n = dflt ∨
      ∃ q, item.bind valuedouble = some q ∧ lo ≤ q ∧ q ≤ hi ∧ q = (cast q : ℚ) ∧ n = store q := by
  unfold numericField at h
  split at h
  · rename_i hnone
    cases h
    exact Or.inl ⟨hnone, rfl⟩
  · rename_i q hq
    split_ifs at h with hr
    rw [not_or, not_or, not_lt, not_lt, not_not] at hr
    cases h
    exact Or.inr ⟨q, hq, hr.1, hr.2.1, hr.2.2, rfl⟩

/-- It clears `parsed` for a number that is outside the range or does not fit the type. -/
theorem numericField_eq_none : numericField item lo hi cast store dflt = none ↔
    ∃ q, item.bind valuedouble = some q ∧ (q < lo ∨ q > hi ∨ q ≠ (cast q : ℚ)) := by
  unfold numericField
  cases item.bind valuedouble with
  | none => simp
  | some q =>
      dsimp only
      constructor
      · intro h
        split_ifs at h with hr
        exact ⟨q, rfl, hr⟩
      · rintro ⟨_, ⟨⟩, hr⟩
        exact if_pos hr

theorem numericField_le (h : numericField item lo hi cast store dflt = some n) (hd : dflt ≤ b)
    (hs : ∀ q, lo ≤ q → q ≤ hi → store q ≤ b) : n ≤ b := by
  rcases numericField_some h with ⟨-, rfl⟩ | ⟨q, -, hlo, hhi, -, rfl⟩
  · exact hd
  · exact hs q hlo hhi

end Numeric

theorem floor_toNat_le {q : ℚ} {b : Nat} (h : q ≤ b) : ⌊q⌋.toNat ≤ b := by
  have : ⌊q⌋ ≤ (b : Int) := by
    have := Int.floor_le_floor h
    rwa [Int.floor_natCast] at this
  omega

theorem toUint32_le {q : ℚ} {b : Nat} (h : q ≤ b) : toUint32 q ≤ b :=
  le_trans (Nat.mod_le _ _) (floor_toNat_le h)

/-- A duration that is taken is one `db_request_validate` takes. -/
theorem durationField_range {body : Option Json} {n : Nat} (h : durationField body = some n) :
    0 < n ∧ n ≤ 3600000 := by
  constructor
  · rcases numericField_some h with ⟨-, rfl⟩ | ⟨q, -, hlo, -, hint, rfl⟩
    · exact Nat.succ_pos _
    · rw [hint] at hlo
      exact_mod_cast hlo
  · exact numericField_le h (by omega) fun q _ hhi =>
      toUint32_le (b := 3600000) (by exact_mod_cast hhi)

/-- The host is a C string that fits its buffer. -/
theorem hostField_fits (body : Option Json) :
    (hostField body).length < dbHostLen ∧ '\x00' ∉ hostField body := by
  unfold hostField
  split
  · exact ⟨by decide, List.not_mem_nil⟩
  · rename_i s hs
    split_ifs with hlt
    · rw [CText.snprintf_of_lt hlt]
      obtain ⟨v, -, hv⟩ := Option.bind_eq_some_iff.mp hs
      exact ⟨hlt, valuestring_no_nul hv⟩
    · exact ⟨by decide, List.not_mem_nil⟩

/-- **The fields of an accepted request**, each as it was read. -/
structure RunsPostFields (body : Option Json) (r : DbRunRequest) : Prop where
  workload : workloadField body = some r.workload
  durationMs : durationField body = some r.durationMs
  port : portField body = some r.port
  rateBps : rateField body = some r.rateBps
  host : r.host = hostField body
  valid : dbRequestValidate r = .ok ()

/-- What is accepted is what was read and found valid. -/
theorem runsPostRequest_eq_ok {body : Option Json} {r : DbRunRequest} :
    runsPostRequest body = .ok r ↔ RunsPostFields body r := by
  constructor
  · intro h
    unfold runsPostRequest at h
    split at h
    · rename_i workload durationMs port rateBps hw hd hp hr
      dsimp only at h
      split at h
      · rename_i hv
        cases h
        exact ⟨hw, hd, hp, hr, rfl, hv⟩
      · cases h
    · cases h
  · rintro ⟨hw, hd, hp, hr, hh, hv⟩
    have hreq : (⟨r.workload, r.durationMs, r.rateBps, r.port, hostField body⟩ : DbRunRequest) =
        r := by
      rw [← hh]
    unfold runsPostRequest
    simp only [hw, hd, hp, hr, hreq, hv]

/-- **What `runs_post` accepts is valid**, its fields lie in their C types, and the host fits. -/
theorem runsPostRequest_ok {body : Option Json} {r : DbRunRequest}
    (h : runsPostRequest body = .ok r) :
    dbRequestValidate r = .ok () ∧ r.rateBps < 2 ^ 32 ∧ r.port < 2 ^ 16 ∧
      r.host.length < dbHostLen ∧ '\x00' ∉ r.host := by
  have F := runsPostRequest_eq_ok.mp h
  refine ⟨F.valid, ?_, ?_, ?_⟩
  · have hle : r.rateBps ≤ 4294967295 := numericField_le F.rateBps (by omega)
      fun q _ hq => toUint32_le (b := 4294967295) (by exact_mod_cast hq)
    omega
  · have hle : r.port ≤ 65535 := numericField_le F.port (by omega) fun q _ _ => by omega
    omega
  · rw [F.host]
    exact hostField_fits body

end DragonBench
