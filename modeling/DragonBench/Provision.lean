/-
  File:      DragonBench/Provision.lean
  Subject:   WHAT BECOMES OF A SUBMISSION: none is lost but to a newer one, none is applied twice,
             and a report says what the radio holds.

  `network_sta_post` overwrites a queue of one place; the worker takes from it, tries the radio up
  to twenty times and reports.

  * `Station.held` -- the submissions reported, in the worker's hands and in the queue;
  * `HeldInv` -- they are a subsequence of the submitted ones and end in the latest;
  * `IdInv` -- the ids of the submitted ones count up from 1 while the counter has not wrapped;
  * `settled` -- what the radio and `sta_ssid` hold by the reports alone, `SettledInv` -- they do;
  * **`provisioning_exact`** -- what follows for the reports.
-/
import DragonBench.StationStep

namespace DragonBench

open Transition

/-! ## 1. Where the submissions are -/

/-- The worker has credentials it has not reported. -/
def WorkerPc.carries : WorkerPc → Bool
  | .receive | .clearCreds | .clearReconfiguring | .testConfigured | .schedule _ => false
  | .firstDelay | .setReconfiguring | .stopTimer | .disconnect | .secondDelay | .configure _
  | .setSsid | .retryDelay _ | .save _ | .setConfigured | .resetRetryCount | .readConfigured
  | .setState _ | .setLastReason | .setResult | .setRequestId => true

/-- The submission in the worker's hands. -/
def Worker.carried (w : Worker) : List StaCredentials := if w.pc.carries then [w.creds] else []

/-- The submissions reported, in the worker's hands and in the queue. -/
def heldBy (n : Net) (w : Worker) : List StaCredentials :=
  n.published.map Publication.creds ++ w.carried ++ n.queue.toList

def Station.held (s : Station) : List StaCredentials := heldBy s.net s.worker

/-- **No submission is lost but to a newer one, none is there twice.** -/
def HeldInv (s : Station) : Prop :=
  s.held.Sublist s.submitted ∧ s.held.getLast? = s.submitted.getLast?

section Held

variable {B : StationBoot} {C : Station → StationAction → Prop}

theorem heldBy_of {n n' : Net} {w w' : Worker} (hp : n'.published = n.published)
    (hq : n'.queue = n.queue) (hc : w'.pc.carries = w.pc.carries) (he : w'.creds = w.creds) :
    heldBy n' w' = heldBy n w := by
  unfold heldBy Worker.carried
  rw [hp, hq, hc, he]

theorem heldBy_keeps {n n' : Net} (k : Keeps n n') (w : Worker) : heldBy n' w = heldBy n w :=
  heldBy_of k.published k.queue rfl rfl

/-- **The worker moves submissions along, and that is all.** -/
theorem WorkerStep.held {n n' : Net} {w w' : Worker} {ok : Bool} {reason : Nat}
    (h : WorkerStep n w ok reason n' w') : heldBy n' w' = heldBy n w := by
  cases h with
  | receive hpc hq =>
      unfold heldBy Worker.carried
      rw [hq, hpc]
      simp [WorkerPc.carries]
  | setRequestId hpc =>
      unfold heldBy Worker.carried
      rw [hpc, List.map_append]
      exact congrArg (· ++ n.queue.toList) (List.append_nil _)
  | clearCreds hpc =>
      unfold heldBy Worker.carried
      rw [hpc]
      rfl
  | disconnect hpc =>
      have k := n.disconnect_keeps reason
      exact heldBy_of k.published k.queue (by rw [hpc]; rfl) rfl
  | schedule hpc hs | scheduled hpc hs =>
      exact heldBy_of hs.keeps.published hs.keeps.queue (by rw [hpc]; rfl) rfl
  | firstDelay hpc | setReconfiguring hpc | stopTimer hpc | secondDelay hpc | refused hpc
  | configured hpc | setSsid hpc | tryAgain hpc | giveUp hpc | save hpc | saved hpc
  | setConfigured hpc | resetRetryCount hpc | readConfigured hpc | setState hpc
  | setLastReason hpc | setResult hpc | clearReconfiguring hpc | schedules hpc
  | schedulesNot hpc => exact heldBy_of rfl rfl (by rw [hpc]; rfl) rfl

theorem heldInv_reach {s : Station} (h : Reach (station B) C s) : HeldInv s := by
  refine station_reach ?_ ?_ h
  · intro nvs pair
    exact ⟨List.Sublist.refl _, rfl⟩
  · intro s a s' _ I _ hs
    have hsame : ∀ {n' : Net} {w' : Worker}, heldBy n' w' = s.held →
        (heldBy n' w').Sublist s.submitted ∧ (heldBy n' w').getLast? = s.submitted.getLast? := by
      intro n' w' e
      rw [e]
      exact I
    cases hs with
    | @overwrite creds hh =>
        have hbefore : (s.net.published.map Publication.creds ++ s.worker.carried).Sublist
            s.submitted := (List.sublist_append_left _ _).trans I.1
        refine ⟨hbefore.append (List.Sublist.refl [creds]), ?_⟩
        show (s.net.published.map Publication.creds ++ s.worker.carried ++ [creds]).getLast? =
          (s.submitted ++ [creds]).getLast?
        rw [List.getLast?_concat, List.getLast?_concat]
    | worker hw => exact hsame hw.held
    | event he => exact hsame (heldBy_keeps he.keeps _)
    | timer ht => exact hsame (heldBy_keeps ht.keeps _)
    | start hst =>
        exact hsame (heldBy_of hst.keeps.published hst.keeps.queue rfl rfl)
    | postRefused | post | status | read | respond | fire | startHttp | apEvent | gotIp | lost
    | flush => exact I

/-- What the worker holds was submitted. -/
theorem carried_submitted {s : Station} (I : HeldInv s) (hc : s.worker.pc.carries = true) :
    s.worker.creds ∈ s.submitted := by
  refine I.1.subset (List.mem_append_left _ (List.mem_append_right _ ?_))
  unfold Worker.carried
  rw [hc]
  exact List.mem_singleton_self _

end Held

/-! ## 2. What was submitted -/

/-- Credentials `network_sta_post` accepts. -/
structure StaCredentials.Valid (c : StaCredentials) : Prop where
  ssid : c.ssid ≠ [] ∧ c.ssid.length < 32
  password : ValidPassword c.password

/-- The configuration a submission asks for. -/
def StaCredentials.config (c : StaCredentials) : WifiConfig :=
  ⟨c.ssid, c.password, if c.password ≠ [] then .wpa2Psk else .openNetwork⟩

theorem StaCredentials.Valid.configure {c : StaCredentials} (h : c.Valid) :
    configureSta c.ssid c.password = some c.config :=
  configureSta_valid h.ssid.1 h.ssid.2 h.password.2

theorem StaCredentials.Valid.copied {c : StaCredentials} (h : c.Valid) :
    CText.snprintf staSsidLen c.ssid = c.ssid :=
  CText.snprintf_of_lt (Nat.lt_trans h.ssid.2 (by decide))

/-- What a valid body is put into the queue as. -/
theorem credentials_valid {body : Option Json} {ssid password : CText} (id : Nat)
    (h : staRequest body = some (ssid, password)) : (credentials id ssid password).Valid := by
  obtain ⟨hne, hlen, hp⟩ := staRequest_some h
  rw [credentials_whole id h]
  exact ⟨⟨hne, hlen⟩, hp⟩

/-- The credentials `network_sta_post` is about to put into the queue. -/
def StationHttp.posting? : StationHttp → Option StaCredentials
  | .posting creds => some creds
  | .down | .idle | .status _ _ => none

/-- Every submission is valid. -/
def ValidInv (s : Station) : Prop :=
  (∀ c ∈ s.submitted, c.Valid) ∧ ∀ c ∈ s.http.posting?, c.Valid

/-- **The ids count up from 1**, and the handler is at the next one. -/
def IdInv (s : Station) : Prop :=
  s.submitted.map StaCredentials.requestId = List.range' 1 s.submitted.length ∧
    match s.http.posting? with
    | none => s.requestCounter = s.submitted.length
    | some c => c.requestId = s.requestCounter ∧ s.requestCounter = s.submitted.length + 1

section Submitted

variable {B : StationBoot} {C : Station → StationAction → Prop}

/-- **What a step does to the submissions**: the handler takes one, puts it into the queue, or
    none of this; `app_main` opens the server. -/
inductive SubmissionStep (s s' : Station) : Prop where
  | takes {body : Option Json} {ssid password : CText} (hidle : s.http = .idle)
      (hbody : staRequest body = some (ssid, password))
      (hcount : s'.requestCounter = dbRequestIdNext s.requestCounter)
      (hsub : s'.submitted = s.submitted)
      (hhttp : s'.http =
        .posting (credentials (dbRequestIdNext s.requestCounter) ssid password)) :
      SubmissionStep s s'
  | puts {creds : StaCredentials} (hposting : s.http = .posting creds) (hhttp : s'.http = .idle)
      (hsub : s'.submitted = s.submitted ++ [creds])
      (hcount : s'.requestCounter = s.requestCounter) : SubmissionStep s s'
  | neither (hhttp : s'.http.posting? = s.http.posting?) (hsub : s'.submitted = s.submitted)
      (hcount : s'.requestCounter = s.requestCounter) : SubmissionStep s s'
  | opens (hstart : s.start = .startHttp) (hhttp : s'.http = .idle)
      (hsub : s'.submitted = s.submitted) (hcount : s'.requestCounter = s.requestCounter) :
      SubmissionStep s s'

theorem StationStep.submission {s s' : Station} {a : StationAction} (h : StationStep B s a s') :
    SubmissionStep s s' := by
  cases h with
  | post hh hb => exact .takes hh hb rfl rfl rfl
  | overwrite hh => exact .puts hh rfl rfl rfl
  | status hh | read hh | respond hh =>
      refine .neither ?_ rfl rfl
      rw [hh]
      rfl
  | startHttp hp => exact .opens hp rfl rfl rfl
  | postRefused | worker | event | timer | fire | start | apEvent | gotIp | lost | flush =>
      exact .neither rfl rfl rfl

theorem validInv_reach {s : Station} (h : Reach (station B) C s) : ValidInv s := by
  refine station_reach ?_ ?_ h
  · intro nvs pair
    exact ⟨fun c hc => absurd hc List.not_mem_nil, fun c hc => by cases hc⟩
  · intro s a s' _ I _ hs
    unfold ValidInv
    cases hs.submission with
    | takes _ hb _ hsub hh =>
        rw [hsub, hh]
        refine ⟨I.1, fun c hc => ?_⟩
        cases hc
        exact credentials_valid _ hb
    | @puts creds hh hh' hsub _ =>
        rw [hsub, hh']
        have hcreds : creds.Valid := I.2 creds (by rw [hh]; rfl)
        exact ⟨List.forall_mem_append.mpr ⟨I.1, List.forall_mem_singleton.mpr hcreds⟩,
          fun c hc => by cases hc⟩
    | neither hh hsub _ =>
        rw [hsub, hh]
        exact I
    | opens _ hh hsub _ =>
        rw [hsub, hh]
        exact ⟨I.1, fun c hc => by cases hc⟩

/-- **The ids count up** as long as fewer than 2^32 - 1 submissions were accepted. -/
theorem idInv_reach {s : Station} (h : Reach (station B) C s)
    (hlen : s.submitted.length < 2 ^ 32 - 1) : IdInv s := by
  refine station_reach (I := fun s => s.submitted.length < 2 ^ 32 - 1 → IdInv s) ?_ ?_ h hlen
  · intro nvs pair _
    exact ⟨rfl, rfl⟩
  · intro s a s' hr I _ hs hlen
    unfold IdInv
    cases hs.submission with
    | takes hidle hb hcount hsub hh =>
        rw [hsub] at hlen ⊢
        have J := I hlen
        unfold IdInv at J
        rw [hidle] at J
        have hc : s.requestCounter = s.submitted.length := J.2
        rw [hh, hcount, hc, dbRequestIdNext_of_lt hlen]
        exact ⟨J.1, rfl, rfl⟩
    | puts hh hh' hsub hcount =>
        rw [hsub, List.length_append, List.length_singleton] at hlen
        have J := I (by omega)
        unfold IdInv at J
        rw [hh] at J
        obtain ⟨hids, hid, hc⟩ := J
        rw [hsub, hh', hcount, hc, List.map_append, hids, List.length_append,
          List.length_singleton]
        refine ⟨?_, rfl⟩
        rw [List.range'_1_concat, List.map_singleton, hid, hc, Nat.add_comm 1]
    | neither hh hsub hcount =>
        rw [hsub] at hlen
        rw [hsub, hh, hcount]
        exact I hlen
    | opens hst hh hsub hcount =>
        rw [hsub] at hlen
        have J := I hlen
        unfold IdInv at J
        have hdown : s.http = .down :=
          (startInv_reach hr (by rw [hst]; exact StartPc.noConfusion)).1
        rw [hdown] at J
        rw [hsub, hh, hcount]
        exact J

end Submitted

/-! ## 3. What the radio holds -/

/-- The radio configuration and `sta_ssid` by the reports alone, the oldest first: an applied
    submission is installed, a failed one changes nothing. -/
def settled (base : WifiConfig × CText) (published : List Publication) : WifiConfig × CText :=
  published.foldl (fun cur p => if p.applied then (p.creds.config, p.creds.ssid) else cur) base

theorem settled_concat (base : WifiConfig × CText) (published : List Publication)
    (p : Publication) : settled base (published ++ [p]) =
      if p.applied then (p.creds.config, p.creds.ssid) else settled base published := by
  unfold settled
  rw [List.foldl_append]
  rfl

/-- The worker is between the first attempt of a submission and its report. -/
def WorkerPc.applying : WorkerPc → Bool
  | .configure _ | .setSsid | .retryDelay _ | .save _ | .setConfigured | .resetRetryCount
  | .readConfigured | .setState _ | .setLastReason | .setResult | .setRequestId => true
  | .receive | .firstDelay | .setReconfiguring | .stopTimer | .disconnect | .secondDelay
  | .clearCreds | .clearReconfiguring | .testConfigured | .schedule _ => false

/-- What the radio and `sta_ssid` hold while the worker is where it is, when the reports say
    `cur`. -/
def Worker.installed (w : Worker) (cur : WifiConfig × CText) : WifiConfig × CText :=
  match w.pc with
  | .setSsid => (w.creds.config, cur.2)
  | .save _ | .setConfigured => (w.creds.config, w.creds.ssid)
  | .resetRetryCount | .readConfigured | .setState _ | .setLastReason | .setResult
  | .setRequestId => if w.applied then (w.creds.config, w.creds.ssid) else cur
  | _ => cur

/-- The local `applied` during the attempts and the save. -/
def Worker.Consistent (w : Worker) : Prop :=
  match w.pc with
  | .configure _ | .retryDelay _ | .setSsid => w.applied = false
  | .save _ | .setConfigured => w.applied = true
  | _ => True

/-- **The radio holds what the reports say**, but for the submission the worker is at. -/
structure SettledInv (s : Station) : Prop where
  consistent : s.worker.Consistent
  holds : s.start = .up → (s.net.config, s.net.staSsid) =
    s.worker.installed (settled s.base s.net.published)
  requestId : s.net.requestId =
    ((s.net.published.getLast?).map fun p => p.creds.requestId).getD 0

section Settled

variable {B : StationBoot} {C : Station → StationAction → Prop}

theorem WorkerStep.consistent {n n' : Net} {w w' : Worker} {ok : Bool} {reason : Nat}
    (h : WorkerStep n w ok reason n' w') (hc : w.Consistent) : w'.Consistent := by
  unfold Worker.Consistent at hc ⊢
  cases h with
  | refused hpc | configured hpc | tryAgain hpc | save hpc | saved hpc =>
      rw [hpc] at hc
      exact hc
  | secondDelay | setSsid => rfl
  | receive | firstDelay | setReconfiguring | stopTimer | disconnect | giveUp | setConfigured
  | resetRetryCount | readConfigured | setState | setLastReason | setResult | setRequestId
  | clearCreds | clearReconfiguring | schedules | schedulesNot | schedule | scheduled => trivial

/-- **A step of the worker keeps the radio and the reports together.** -/
theorem WorkerStep.installs {n n' : Net} {w w' : Worker} {ok : Bool} {reason : Nat}
    {base : WifiConfig × CText} (h : WorkerStep n w ok reason n' w') (hc : w.Consistent)
    (hv : w.pc.carries = true → w.creds.Valid)
    (hi : (n.config, n.staSsid) = w.installed (settled base n.published)) :
    (n'.config, n'.staSsid) = w'.installed (settled base n'.published) := by
  unfold Worker.Consistent at hc
  unfold Worker.installed at hi ⊢
  cases h with
  | @configured attempt config hpc hcfg hok =>
      have hvalid := hv (by rw [hpc]; rfl)
      rw [hpc] at hi
      rw [hvalid.configure] at hcfg
      cases hcfg
      exact congrArg (fun p => (w.creds.config, p.2)) hi
  | setSsid hpc =>
      have hvalid := hv (by rw [hpc]; rfl)
      rw [hpc] at hi
      show (n.config, CText.snprintf staSsidLen w.creds.ssid) = (w.creds.config, w.creds.ssid)
      rw [hvalid.copied]
      exact congrArg (fun p => (p.1, w.creds.ssid)) hi
  | giveUp hpc | setConfigured hpc =>
      rw [hpc] at hi hc
      dsimp only at hc hi ⊢
      rw [hc]
      exact hi
  | setRequestId hpc =>
      rw [hpc] at hi
      show (n.config, n.staSsid) = settled base (n.published ++ [⟨w.creds, w.applied⟩])
      rw [settled_concat]
      exact hi
  | disconnect hpc =>
      have k := n.disconnect_keeps reason
      rw [hpc] at hi
      rw [k.config, k.staSsid, k.published]
      exact hi
  | schedule hpc hs | scheduled hpc hs =>
      rw [hpc] at hi
      rw [hs.keeps.config, hs.keeps.staSsid, hs.keeps.published]
      exact hi
  | receive hpc | firstDelay hpc | setReconfiguring hpc | stopTimer hpc | secondDelay hpc
  | refused hpc | tryAgain hpc | save hpc | saved hpc | resetRetryCount hpc | readConfigured hpc
  | setState hpc | setLastReason hpc | setResult hpc | clearCreds hpc | clearReconfiguring hpc
  | schedules hpc | schedulesNot hpc =>
      rw [hpc] at hi
      exact hi

/-- A report carries its request id. -/
theorem WorkerStep.reports {n n' : Net} {w w' : Worker} {ok : Bool} {reason : Nat}
    (h : WorkerStep n w ok reason n' w') (hr : n.requestId =
      ((n.published.getLast?).map fun p => p.creds.requestId).getD 0) :
    n'.requestId = ((n'.published.getLast?).map fun p => p.creds.requestId).getD 0 := by
  cases h with
  | setRequestId hpc =>
      show w.creds.requestId =
        (((n.published ++ [(⟨w.creds, w.applied⟩ : Publication)]).getLast?).map
          fun p => p.creds.requestId).getD 0
      rw [List.getLast?_concat]
      rfl
  | disconnect =>
      have k := n.disconnect_keeps reason
      rw [k.requestId, k.published]
      exact hr
  | schedule _ hs | scheduled _ hs =>
      rw [hs.keeps.requestId, hs.keeps.published]
      exact hr
  | receive | firstDelay | setReconfiguring | stopTimer | secondDelay | refused | configured
  | setSsid | tryAgain | giveUp | save | saved | setConfigured | resetRetryCount
  | readConfigured | setState | setLastReason | setResult | clearCreds | clearReconfiguring
  | schedules | schedulesNot => exact hr

/-- Only the last step of `app_main` ends the start. -/
theorem StartStep.ne_up {n n' : Net} {ok : Bool} {pc pc' : StartPc}
    (h : StartStep n ok pc n' pc') : pc' ≠ .up := by
  cases h with
  | configured | notConfigured | configureFailed | connects | connectsNot | startFailed
  | setConnecting | connect => exact StartPc.noConfusion

theorem settledInv_reach {s : Station} (h : Reach (station B) C s) : SettledInv s := by
  refine station_reach ?_ ?_ h
  · intro nvs pair
    exact ⟨trivial, fun hu => StartPc.noConfusion hu, rfl⟩
  · intro s a s' hr I _ hs
    have hkeeps : ∀ {n' : Net}, Keeps s.net n' →
        (s.start = .up → (n'.config, n'.staSsid) =
          s.worker.installed (settled s.base n'.published)) ∧
        n'.requestId = ((n'.published.getLast?).map fun p => p.creds.requestId).getD 0 := by
      intro n' k
      rw [k.config, k.staSsid, k.published, k.requestId]
      exact ⟨I.holds, I.requestId⟩
    cases hs with
    | worker hw =>
        have hvalid : s.worker.pc.carries = true → s.worker.creds.Valid := fun hc =>
          (validInv_reach hr).1 _ (carried_submitted (heldInv_reach hr) hc)
        exact ⟨hw.consistent I.consistent,
          fun hu => hw.installs I.consistent hvalid (I.holds hu), hw.reports I.requestId⟩
    | event he => exact ⟨I.consistent, (hkeeps he.keeps).1, (hkeeps he.keeps).2⟩
    | timer ht => exact ⟨I.consistent, (hkeeps ht.keeps).1, (hkeeps ht.keeps).2⟩
    | @start ok n' pc' hst =>
        refine ⟨I.consistent, fun hu => ?_, ?_⟩
        · exact absurd hu hst.ne_up
        · show n'.requestId = ((n'.published.getLast?).map fun p => p.creds.requestId).getD 0
          rw [hst.keeps.requestId, hst.keeps.published]
          exact I.requestId
    | startHttp hp =>
        obtain ⟨-, hpc, -, hpub, -⟩ := startInv_reach hr (by rw [hp]; exact StartPc.noConfusion)
        refine ⟨I.consistent, fun _ => ?_, I.requestId⟩
        show (s.net.config, s.net.staSsid) =
          s.worker.installed (settled (s.net.config, s.net.staSsid) s.net.published)
        unfold Worker.installed
        rw [hpub, hpc]
        rfl
    | postRefused | post | overwrite | status | read | respond | fire | apEvent | gotIp | lost
    | flush => exact ⟨I.consistent, I.holds, I.requestId⟩

/-- Outside an application the worker adds nothing to the reports. -/
theorem Worker.installed_of_not_applying {w : Worker} (h : w.pc.applying = false)
    (cur : WifiConfig × CText) : w.installed cur = cur := by
  unfold Worker.installed
  cases hpc : w.pc with
  | setSsid | save | setConfigured | resetRetryCount | readConfigured | setState | setLastReason
  | setResult | setRequestId =>
      rw [hpc] at h
      cases h
  | receive | firstDelay | setReconfiguring | stopTimer | disconnect | secondDelay | configure
  | retryDelay | clearCreds | clearReconfiguring | testConfigured | schedule => rfl

/-! ## 4. The reports -/

/-- The ids of the submissions, and of the reports. -/
def Station.submittedIds (s : Station) : List Nat := s.submitted.map StaCredentials.requestId

def Station.publishedIds (s : Station) : List Nat :=
  s.net.published.map fun p => p.creds.requestId

/-- The reports are a subsequence of the submissions. -/
theorem published_sublist {s : Station} (h : Reach (station B) C s) :
    (s.net.published.map Publication.creds).Sublist s.submitted := by
  have hheld := (heldInv_reach h).1
  unfold Station.held heldBy at hheld
  rw [List.append_assoc] at hheld
  exact (List.sublist_append_left _ _).trans hheld

/-- **What the reports say is true**, in every interleaving of fewer than 2^32 - 1 submissions:
    their ids are a strictly increasing subsequence of the submitted ids; when the worker waits at
    an empty queue the id reported is that of the latest submission; and whenever the worker is not
    applying a submission the radio and `sta_ssid` hold the last one reported as applied. -/
theorem provisioning_exact {s : Station} (h : Reach (station B) Always s)
    (hlen : s.submitted.length < 2 ^ 32 - 1) :
    (s.publishedIds.Pairwise (· < ·) ∧ s.publishedIds.Sublist s.submittedIds) ∧
    (s.worker.pc = .receive → s.net.queue = none →
      s.net.requestId = ((s.submitted.getLast?).map StaCredentials.requestId).getD 0) ∧
    (s.start = .up → s.worker.pc.applying = false →
      (s.net.config, s.net.staSsid) = settled s.base s.net.published) := by
  have I := settledInv_reach h
  have hsub : s.publishedIds.Sublist s.submittedIds := by
    have hm := (published_sublist h).map StaCredentials.requestId
    rw [List.map_map] at hm
    exact hm
  have hinc : s.submittedIds.Pairwise (· < ·) := by
    have hids := (idInv_reach h hlen).1
    unfold Station.submittedIds
    rw [hids]
    exact List.pairwise_lt_range'
  refine ⟨⟨hinc.sublist hsub, hsub⟩, fun hpc hq => ?_, fun hu ha => ?_⟩
  · have hlast := (heldInv_reach h).2
    unfold Station.held heldBy Worker.carried at hlast
    rw [hpc, hq] at hlast
    rw [I.requestId, ← hlast]
    simp [WorkerPc.carries, Option.map_map, Function.comp_def]
  · rw [I.holds hu]
    exact Worker.installed_of_not_applying ha _

end Settled

/-! ## 5. A run -/

/-- A device named `dragonbench`. -/
def benchStation : StationBoot := ⟨"dragonbench".toList, true⟩

/-- A run from a boot without a configured network. -/
def stationRun (actions : List StationAction) : Station :=
  (station benchStation).runEnd (.initial ⟨⟨none, none⟩, ⟨none, none⟩⟩ ([], [])) actions

/-- `start_wifi` and `start_http`. -/
def startActions : List StationAction := [.start true, .start true, .start true]

/-- A submission for the network `ssid`. -/
def submit (ssid : CText) : List StationAction :=
  [.post (some (.obj [("ssid".toList, .str ssid), ("password".toList, .str "12345678".toList)])),
    .overwrite]

/-- The worker takes `steps` steps, all of its calls succeed. -/
def workerSteps (steps : Nat) : List StationAction := List.replicate steps (.worker true 8)

theorem stationRun_reach {actions : List StationAction}
    (h : ((station benchStation).exec (.initial ⟨⟨none, none⟩, ⟨none, none⟩⟩ ([], []))
      actions).isSome = true) : Reach (station benchStation) Always (stationRun actions) :=
  reach_runEnd (.start ⟨_, _, rfl⟩) h

/-- Two submissions arrive while the worker is at the first one. -/
def overwrittenRun : Station :=
  stationRun (startActions ++ submit "a".toList ++ workerSteps 1 ++ submit "b".toList ++
    submit "c".toList ++ workerSteps 53)

set_option maxRecDepth 8000 in
/-- The second of three submissions is overwritten, the first and the third are reported. -/
theorem provisioning_exact_overwritten :
    overwrittenRun.submittedIds = [1, 2, 3] ∧ overwrittenRun.publishedIds = [1, 3] ∧
      overwrittenRun.net.requestId = 3 ∧ overwrittenRun.net.staSsid = "c".toList := by
  have h : Reach (station benchStation) Always overwrittenRun := stationRun_reach (by decide)
  obtain ⟨-, hid, hheld⟩ := provisioning_exact h (by decide)
  have hset := congrArg Prod.snd (hheld (by decide) (by decide))
  exact ⟨by decide, by decide, hid (by decide) (by decide), hset.trans (by decide)⟩

end DragonBench
