/-
  File:      DragonBench/SetupPage.lean
  Subject:   THE SETUP PAGE: which form its messages are about.

  The page posts every form that is submitted and keeps the last answer in one slot, `pending`,
  which the status polls are compared with. Several posts and a poll can be on their way at once,
  and their answers arrive in any order.

  * `render`, `SetupPage.answered`, `SetupPage.step`, `setupPage` -- the script of the page;
  * `Message.about?` -- the form a message of the three outcomes is about;
  * `MessagesAboutLatest`, `messages_about_older` -- a form submitted while another is pending, and
    the page tells the outcome of the older one;
  * `Orderly` -- a form is submitted when none is pending, and accepted as the latest;
  * **`messages_about_latest`** -- the runs of such steps, and what every other step makes possible.
-/
import DragonBench.Lib.Transition
import DragonBench.RequestIds

namespace DragonBench

open Transition

/-! ## 1. What the page reads and shows -/

/-- What `render` reads of `network`; `none` is a field that is missing. -/
structure NetworkFields where
  staConfigRequestId : Option Int
  staConfigResult : Option CText
  staState : Option CText
  staSsid : Option CText
  staIp : Option CText
  staLastDisconnectReason : Option Nat
  deriving DecidableEq

/-- `network||{}` without a network. -/
def NetworkFields.empty : NetworkFields := ⟨none, none, none, none, none, none⟩

/-- What the page makes of the answer to a POST request: `res.ok` with its data, another status, or
    no answer that could be read. -/
inductive PostAnswer where
  | ok (requestId : Option Int) (ssid : Option CText)
  | error (error : Option CText)
  | lost
  deriving DecidableEq

/-- `REASONS`. -/
def reasons : List (Nat × CText) :=
  [(2, "authentication timed out".toList), (4, "association timed out".toList),
    (8, "left to reconfigure".toList), (15, "handshake timed out (wrong password?)".toList),
    (201, "network not found".toList), (202, "authentication failed".toList),
    (204, "handshake timed out (wrong password?)".toList),
    (210, "no network with compatible security".toList),
    (211, "network security below WPA2".toList)]

/-- `reason`. -/
def reason : Option Nat → CText
  | none | some 0 => "—".toList
  | some code =>
    (reasons.lookup code).getD "reason".toList ++ " (".toList ++ CText.decimal code ++ ")".toList

/-- `'' + value`. -/
def jsText (value : Option CText) : CText := value.getD "undefined".toList

/-- The text `show` puts into the page. -/
def shown (value : Option CText) : CText :=
  match value with
  | none | some [] => "—".toList
  | some text => text

/-- The texts of `sta-state`, `sta-current`, `sta-ip` and `sta-reason`. -/
structure StationPanel where
  state : CText
  current : CText
  ip : CText
  reason : CText
  deriving DecidableEq

/-- The texts of `sta-message`. The three outcomes carry, as history, the form they are about. -/
inductive Message where
  | blank
  | sending
  | connecting (ssid : Option CText)
  | rejected (error : Option CText)
  | noResponse
  | replaced (form : Nat)
  | notApplied (form : Nat)
  | connected (form : Nat) (ssid ip : Option CText)
  | retrying (ssid : Option CText) (code : Option Nat)
  deriving DecidableEq

/-- `message.textContent`. -/
def Message.text : Message → CText
  | .blank => []
  | .sending => "Sending…".toList
  | .connecting ssid => "Connecting to ".toList ++ jsText ssid ++ "…".toList
  | .rejected none | .rejected (some []) => "Rejected: unknown error".toList
  | .rejected (some error) => "Rejected: ".toList ++ error
  | .noResponse =>
    ("No response to the request. If the access point dropped, reconnect to it and check the " ++
      "status below.").toList
  | .replaced _ => "A newer submission replaced this one.".toList
  | .notApplied _ =>
    "Could not apply these settings; the previous network is still in use.".toList
  | .connected _ ssid ip =>
    "Connected to ".toList ++ jsText ssid ++ " at ".toList ++ jsText ip ++ ".".toList
  | .retrying ssid code =>
    "Not connected to ".toList ++ jsText ssid ++ " yet: ".toList ++ reason code ++
      ". Retrying.".toList

/-- **The form an outcome is about.** -/
def Message.about? : Message → Option Nat
  | .replaced form | .notApplied form | .connected form _ _ => some form
  | .blank | .sending | .connecting _ | .rejected _ | .noResponse | .retrying _ _ => none

/-! ## 2. The script -/

/-- `pending`, and as history the form whose answer it was. -/
structure Pending where
  id : Option Int
  ssid : Option CText
  form : Nat
  deriving DecidableEq

/-- The page. -/
structure SetupPage where
  message : Message
  panel : StationPanel
  pending : Option Pending
  inFlight : Bool
  /-- the forms whose POST request has not been answered -/
  posts : List Nat
  /-- history: the forms submitted, which are numbered from 1 -/
  submissions : Nat
  deriving DecidableEq

/-- What happens to the page. -/
inductive PageEvent where
  | submit
  /-- the answer to the POST request of this form -/
  | answer (form : Nat) (a : PostAnswer)
  /-- the timer of `poll` -/
  | poll
  | status (n : NetworkFields)
  /-- the poll fails or takes longer than four seconds -/
  | statusLost
  deriving DecidableEq

/-- The two callbacks behind the POST request, and the one that catches. -/
def SetupPage.answered (s : SetupPage) (form : Nat) : PostAnswer → SetupPage
  | .ok id ssid => { s with pending := some ⟨id, ssid, form⟩, message := .connecting ssid }
  | .error error => { s with pending := none, message := .rejected error }
  | .lost => { s with pending := none, message := .noResponse }

/-- The part of `render` behind `if(!pending)return`. -/
def SetupPage.compare (s : SetupPage) (n : NetworkFields) (p : Pending) : SetupPage :=
  if n.staConfigRequestId ≠ p.id then
    if requestIdNewer n.staConfigRequestId p.id then
      { s with message := .replaced p.form, pending := none }
    else s
  else if n.staConfigResult = some "failed".toList then
    { s with message := .notApplied p.form, pending := none }
  else if n.staState = some "connected".toList ∧ n.staSsid = p.ssid then
    { s with message := .connected p.form p.ssid n.staIp, pending := none }
  else if n.staLastDisconnectReason.getD 0 ≠ 0 ∧ n.staLastDisconnectReason ≠ some 8 then
    { s with message := .retrying p.ssid n.staLastDisconnectReason }
  else s

/-- `render`. -/
def SetupPage.render (s : SetupPage) (n : NetworkFields) : SetupPage :=
  let connected := n.staState = some "connected".toList
  let s := { s with panel :=
    { state := shown n.staState
      current := shown n.staSsid
      ip := shown (if connected then n.staIp else none)
      reason := if connected then "—".toList else reason n.staLastDisconnectReason } }
  match s.pending with
  | none => s
  | some p => s.compare n p

/-- One event. The poll that is under way keeps others from starting. -/
def SetupPage.step (s : SetupPage) : PageEvent → Option SetupPage
  | .submit =>
    some { s with
      message := .sending
      submissions := s.submissions + 1
      posts := s.posts ++ [s.submissions + 1] }
  | .answer form a =>
    if form ∈ s.posts then some ({ s with posts := s.posts.erase form }.answered form a) else none
  | .poll => some { s with inFlight := true }
  | .status n => if s.inFlight then some { s.render n with inFlight := false } else none
  | .statusLost => if s.inFlight then some { s with inFlight := false } else none

/-- The page behind the first call of `poll`. -/
def SetupPage.initial : SetupPage :=
  ⟨.blank, ⟨"—".toList, "—".toList, "—".toList, "—".toList⟩, none, true, [], 0⟩

/-- **The setup page**, whatever is submitted and answered. -/
def setupPage : System SetupPage PageEvent where
  init s := s = .initial
  step := SetupPage.step

/-! ## 3. What does not hold -/

/-- **The outcomes on the page are about the form submitted last.** -/
def AboutLatest (s : SetupPage) : Prop :=
  ∀ form, s.message.about? = some form → form = s.submissions

def MessagesAboutLatest : Prop := ∀ s, Reach setupPage Always s → AboutLatest s

/-- What a poll reads when the device has refused to apply the request with this id. -/
def refusedStatus (id : Option Int) : NetworkFields :=
  { NetworkFields.empty with
    staConfigRequestId := id
    staConfigResult := some "failed".toList }

/-- A second form is submitted while the first is pending, and a poll tells that the first could
    not be applied. -/
def secondForm : List PageEvent :=
  [.submit, .answer 1 (.ok (some 1) (some "home".toList)), .submit,
    .status (refusedStatus (some 1))]

theorem messages_about_older : ¬ MessagesAboutLatest := by
  intro h
  have hreach : Reach setupPage Always (setupPage.runEnd .initial secondForm) :=
    reach_runEnd (.start rfl) (by decide)
  exact absurd (h _ hreach 1 (by decide)) (by decide)

/-! ## 4. Orderly runs -/

/-- **A form is submitted when none is pending, and accepted when it is the latest.** -/
def Orderly (s : SetupPage) : PageEvent → Prop
  | .submit => s.pending = none
  | .answer form (.ok _ _) => form = s.submissions
  | _ => True

instance (s : SetupPage) (a : PageEvent) : Decidable (Orderly s a) := by
  unfold Orderly
  split <;> infer_instance

section Steps

variable {s s' : SetupPage}

/-- An empty slot is about anything. -/
theorem slot_of_none {P : Pending → Prop} (h : s.pending = none) :
    ∀ p, s.pending = some p → P p := by
  intro p e
  rw [h] at e
  cases e

/-- So is a message without an outcome. -/
theorem aboutLatest_of_none (h : s.message.about? = none) : AboutLatest s := by
  intro form e
  rw [h] at e
  cases e

/-- **What a status does to the slot and the message**: an outcome is about the form in the slot,
    and empties it. -/
structure StatusEffect (s s' : SetupPage) : Prop where
  posts : s'.posts = s.posts
  submissions : s'.submissions = s.submissions
  pending : s'.pending = none ∨ s'.pending = s.pending
  message : s'.message = s.message ∨ s'.message.about? = none ∨
    ∃ p, s.pending = some p ∧ s'.message.about? = some p.form

theorem compare_effect (s : SetupPage) (n : NetworkFields) {p : Pending} (hp : s.pending = some p) :
    StatusEffect s (s.compare n p) := by
  unfold SetupPage.compare
  split
  · split
    · exact ⟨rfl, rfl, Or.inl rfl, Or.inr (Or.inr ⟨p, hp, rfl⟩)⟩
    · exact ⟨rfl, rfl, Or.inr rfl, Or.inl rfl⟩
  · split
    · exact ⟨rfl, rfl, Or.inl rfl, Or.inr (Or.inr ⟨p, hp, rfl⟩)⟩
    · split
      · exact ⟨rfl, rfl, Or.inl rfl, Or.inr (Or.inr ⟨p, hp, rfl⟩)⟩
      · split
        · exact ⟨rfl, rfl, Or.inr rfl, Or.inr (Or.inl rfl)⟩
        · exact ⟨rfl, rfl, Or.inr rfl, Or.inl rfl⟩

theorem render_effect (s : SetupPage) (n : NetworkFields) : StatusEffect s (s.render n) := by
  unfold SetupPage.render
  dsimp only
  split
  · exact ⟨rfl, rfl, Or.inr rfl, Or.inl rfl⟩
  · rename_i p hp
    obtain ⟨hposts, hsub, hpending, hmessage⟩ := compare_effect
      { s with panel :=
        { state := shown n.staState
          current := shown n.staSsid
          ip := shown (if n.staState = some "connected".toList then n.staIp else none)
          reason := if n.staState = some "connected".toList then "—".toList
            else reason n.staLastDisconnectReason } } n hp
    exact ⟨hposts, hsub, hpending, hmessage⟩

/-- **What a step of the page can do.** -/
inductive PageStep (s : SetupPage) : PageEvent → SetupPage → Prop where
  | submit : PageStep s .submit
      { s with
        message := .sending
        submissions := s.submissions + 1
        posts := s.posts ++ [s.submissions + 1] }
  | answer {form : Nat} {a : PostAnswer} (h : form ∈ s.posts) :
      PageStep s (.answer form a) ({ s with posts := s.posts.erase form }.answered form a)
  | status {n : NetworkFields} {s' : SetupPage} (h : StatusEffect s s') : PageStep s (.status n) s'
  | poll {inFlight : Bool} {a : PageEvent} : PageStep s a { s with inFlight := inFlight }

theorem pageStep_cases {a : PageEvent} (h : setupPage.step s a = some s') : PageStep s a s' := by
  cases a with
  | submit =>
      cases h
      exact .submit
  | answer form a =>
      obtain ⟨hm, h⟩ := Option.ite_none_right_eq_some.mp h
      cases h
      exact .answer hm
  | poll =>
      cases h
      exact .poll
  | status n =>
      obtain ⟨-, h⟩ := Option.ite_none_right_eq_some.mp h
      cases h
      have he := render_effect s n
      exact .status ⟨he.posts, he.submissions, he.pending, he.message⟩
  | statusLost =>
      obtain ⟨-, h⟩ := Option.ite_none_right_eq_some.mp h
      cases h
      exact .poll

/-- **The slot and the message are about the latest form.** -/
structure LatestInv (s : SetupPage) : Prop where
  pending : ∀ p, s.pending = some p → p.form = s.submissions
  message : AboutLatest s

theorem latestInv_reach (h : Reach setupPage Orderly s) : LatestInv s := by
  refine h.inv ?_ ?_
  · rintro s rfl
    exact ⟨slot_of_none rfl, aboutLatest_of_none rfl⟩
  · intro s a s' _ I hc hs
    cases pageStep_cases hs with
    | submit =>
        have hnone : s.pending = none := hc
        exact ⟨slot_of_none hnone, aboutLatest_of_none rfl⟩
    | @answer form a hm =>
        cases a with
        | ok id ssid =>
            refine ⟨fun p e => ?_, aboutLatest_of_none rfl⟩
            cases e
            exact hc
        | error error | lost => exact ⟨slot_of_none rfl, aboutLatest_of_none rfl⟩
    | status he =>
        refine ⟨fun p e => ?_, fun form e => ?_⟩
        · rw [he.submissions]
          rcases he.pending with hp | hp
          · rw [hp] at e
            cases e
          · exact I.pending p (hp.symm.trans e)
        · rw [he.submissions]
          rcases he.message with hm | hm | ⟨p, hp, hm⟩
          · exact I.message form (hm ▸ e)
          · rw [hm] at e
            cases e
          · rw [hm] at e
            cases e
            exact I.pending p hp
    | poll => exact ⟨I.pending, I.message⟩

/-! ## 5. All other steps -/

/-- The slot and the posts are about forms that were submitted. -/
structure FormsInv (s : SetupPage) : Prop where
  pending : ∀ p, s.pending = some p → p.form ≤ s.submissions
  posts : ∀ form ∈ s.posts, form ≤ s.submissions

theorem formsInv_reach {C : SetupPage → PageEvent → Prop} (h : Reach setupPage C s) :
    FormsInv s := by
  refine h.inv ?_ ?_
  · rintro s rfl
    exact ⟨slot_of_none rfl, fun form e => absurd e List.not_mem_nil⟩
  · intro s a s' _ I _ hs
    cases pageStep_cases hs with
    | submit =>
        refine ⟨fun p e => Nat.le_succ_of_le (I.pending p e), fun form hm => ?_⟩
        rcases List.mem_append.mp hm with hm | hm
        · exact Nat.le_succ_of_le (I.posts form hm)
        · exact Nat.le_of_eq (List.mem_singleton.mp hm)
    | @answer form a hm =>
        have hposts : ∀ f ∈ s.posts.erase form, f ≤ s.submissions :=
          fun f hf => I.posts f (List.mem_of_mem_erase hf)
        cases a with
        | ok id ssid =>
            refine ⟨fun p e => ?_, hposts⟩
            cases e
            exact I.posts form hm
        | error error | lost => exact ⟨slot_of_none rfl, hposts⟩
    | status he =>
        refine ⟨fun p e => ?_, fun form hm => ?_⟩
        · rw [he.submissions]
          rcases he.pending with hp | hp
          · rw [hp] at e
            cases e
          · exact I.pending p (hp.symm.trans e)
        · rw [he.submissions]
          exact I.posts form (he.posts ▸ hm)
    | poll => exact ⟨I.pending, I.posts⟩

/-- **What is in the slot can be told about**: a poll that finds it refused shows a message about
    its form. -/
theorem pending_is_told {p : Pending} (hp : s.pending = some p) :
    ∃ t, Reach (setupPage.startingAt s) Always t ∧ t.message.about? = some p.form ∧
      t.submissions = s.submissions := by
  have hpoll : Reach (setupPage.startingAt s) Always { s with inFlight := true } :=
    .step (.start rfl) (a := .poll) trivial rfl
  refine ⟨_, .step hpoll (a := .status (refusedStatus p.id)) trivial rfl, ?_, ?_⟩
  all_goals
    simp [SetupPage.render, SetupPage.compare, hp, refusedStatus, Message.about?]

/-- **Orderly runs tell the truth, and only they are safe.** In every run whose steps are orderly
    the outcomes on the page are about the latest form; and behind every step that is not, of
    whatever run, a poll can show one about an older form. -/
theorem messages_about_latest (s : SetupPage) :
    (Reach setupPage Orderly s → AboutLatest s) ∧
      ∀ a s', Reach setupPage Always s → ¬ Orderly s a → setupPage.step s a = some s' →
        ∃ t, Reach (setupPage.startingAt s') Always t ∧ ¬ AboutLatest t := by
  refine ⟨fun h => (latestInv_reach h).message, ?_⟩
  intro a s' h hc hs
  have I := formsInv_reach h
  have hold : ∃ p, s'.pending = some p ∧ p.form ≠ s'.submissions := by
    cases a with
    | submit =>
        obtain ⟨p, hp⟩ := Option.ne_none_iff_exists'.mp hc
        cases hs
        exact ⟨p, hp, Nat.ne_of_lt (Nat.lt_succ_of_le (I.pending p hp))⟩
    | answer form a =>
        obtain ⟨hm, hs⟩ := Option.ite_none_right_eq_some.mp hs
        cases hs
        cases a with
        | ok id ssid => exact ⟨_, rfl, hc⟩
        | error error | lost => exact absurd trivial hc
    | poll | status n | statusLost => exact absurd trivial hc
  obtain ⟨p, hp, hne⟩ := hold
  obtain ⟨t, ht, habout, hsub⟩ := pending_is_told hp
  exact ⟨t, ht, fun hlatest => hne ((hlatest p.form habout).trans hsub)⟩

end Steps

/-- One form, accepted and connected. -/
def oneForm : List PageEvent :=
  [.submit, .answer 1 (.ok (some 1) (some "home".toList)),
    .status ⟨some 1, some "applied".toList, some "connected".toList, some "home".toList,
      some "192.168.8.141".toList, some 0⟩]

def oneFormPage : SetupPage := (setupPage.guard Orderly).runEnd .initial oneForm

theorem messages_about_latest_one :
    oneFormPage.message.text = "Connected to home at 192.168.8.141.".toList ∧
      AboutLatest oneFormPage :=
  ⟨by decide, (messages_about_latest _).1 (reach_guard (reach_runEnd (.start rfl) (by decide)))⟩

end DragonBench
