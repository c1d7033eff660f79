/-
  File:      DragonBench/FormRequest.lean
  Subject:   THE FORM OF THE SETUP PAGE, THERE AND BACK: from the two fields over `JSON.stringify`,
             `httpd_req_recv` and `read_body` to the credentials `network_sta_post` queues, and from
             its answer over `res.json()` to what the page remembers.

  The fields take 31 and 63 characters, the device 31 and 63 bytes. What is typed is encoded in
  UTF-8, so a name can be short enough for the field and too long for the device; the page then
  shows the refusal.

  * `formData` -- the body of the POST request;
  * `postAnswer` -- what the page makes of a response;
  * `formData_length` -- the data of the form always fit the buffer of `read_body`;
  * `Taken` -- the pair the device takes, in bytes;
  * **`form_round_trip`** -- what is queued is what was typed, and the page is told which.
-/
import DragonBench.Lib.JsValue
import DragonBench.Lib.Utf8Replace
import DragonBench.RequestBody
import DragonBench.Responses
import DragonBench.SetupPage

namespace DragonBench

open Json Transition

/-! ## 1. The page -/

/-- The members `JSON.stringify` is given. -/
def formBody (ssid password : CText) : List (CText × Json) :=
  [("ssid".toList, .str ssid), ("password".toList, .str password)]

/-- **The body of the POST request**: `JSON.stringify`, which escapes like cJSON, in the UTF-8 of
    `fetch`. There is no number in it. -/
def formData (ssid password : CText) : CText := utf8 ((Json.obj (formBody ssid password)).print intText)

/-- `JSON.parse`, with the white space and the strings of `json.loads`. -/
def jsonParse (text : CText) : Option Json := python.loads text

/-- `res.json()`: what is no UTF-8 is replaced. `none` is an exception. -/
def resJson (body : CText) : Option Json := jsonParse (Utf8Replace.decodeReplace body)

/-- A number as `pending.id` keeps it. -/
def jsInt : Json → Option Int
  | .num q => if q.den = 1 then some q.num else none
  | _ => none

/-- A string as the messages show it. -/
def jsString : Json → Option CText
  | .str s => some s
  | _ => none

/-- **What the page makes of a response.** -/
def postAnswer (response : HttpResponse) : PostAnswer :=
  match resJson response.body with
  -- reading a member of `null` throws
  | none | some .null => .lost
  | some data =>
    -- `res.ok`
    if 200 ≤ response.status ∧ response.status < 300 then
      .ok ((Js.member "request_id".toList data).bind jsInt)
        ((Js.member "ssid".toList data).bind jsString)
    else .error ((Js.member "error".toList data).bind jsString)

/-! ## 2. The data of the form -/

section Form

/-- A character of a string costs six bytes at most. -/
theorem utf8_escape_length (c : Char) : (utf8 (escape c)).length ≤ 6 := by
  by_cases h : c.toNat < 128
  · rw [utf8_ascii (escape_ascii h)]
    unfold escape
    split_ifs <;> simp only [List.length_cons, List.length_nil] <;> omega
  · rw [escape_of_ge (not_lt.mp h), utf8_cons]
    have := utf8Bytes_length c
    simp only [utf8, List.flatMap_nil, List.append_nil]
    omega

theorem utf8_printString_length (s : CText) : (utf8 (printString s)).length ≤ 6 * s.length + 2 := by
  have hchars : (utf8 (s.flatMap escape)).length ≤ 6 * s.length := by
    induction s with
    | nil => exact le_rfl
    | cons c s ih =>
        have hc := utf8_escape_length c
        rw [List.flatMap_cons, utf8_append, List.length_append, List.length_cons]
        omega
  have hquote : utf8 ['"'] = ['"'] := utf8_ascii (CText.forall_of_all (by decide))
  rw [printString, utf8_cons, utf8Bytes_ascii (by decide), utf8_append, hquote]
  simp only [List.length_append, List.length_cons, List.length_nil]
  omega

/-- **The data of a form fit the buffer.** -/
theorem formData_length {ssid password : CText} (hs : ssid.length ≤ 31) (hp : password.length ≤ 63) :
    (formData ssid password).length < jsonBodyMax := by
  have h1 := utf8_printString_length ssid
  have h2 := utf8_printString_length password
  have hframe : (Json.obj (formBody ssid password)).print intText =
      "\x7b\"ssid\":".toList ++ (printString ssid ++ (",\"password\":".toList ++
        (printString password ++ ['\x7d']))) := by
    have k1 : printString "ssid".toList = "\"ssid\"".toList := by decide
    have k2 : printString "password".toList = "\"password\"".toList := by decide
    simp only [formBody, print, printMembers, k1, k2, List.append_assoc, List.cons_append]
    rfl
  have a1 : (utf8 "\x7b\"ssid\":".toList).length = 8 := by decide
  have a2 : (utf8 ",\"password\":".toList).length = 12 := by decide
  have a3 : (utf8 ['\x7d']).length = 1 := by decide
  rw [formData, hframe, utf8_append, utf8_append, utf8_append, utf8_append]
  simp only [List.length_append, a1, a2, a3, jsonBodyMax]
  omega

/-- A NUL is a byte of its own. -/
theorem cstr_utf8 (s : CText) : cstr (utf8 s) = utf8 (cstr s) := by
  induction s with
  | nil => rfl
  | cons c s ih =>
      by_cases hc : c = '\x00'
      · subst hc
        rw [utf8_cons, utf8Bytes_ascii (by decide)]
        rfl
      · have hbytes : ∀ b ∈ utf8Bytes c, decide (b ≠ '\x00') = true := by
          intro b hb
          refine decide_eq_true fun e => ?_
          by_cases h : c.toNat < 128
          · rw [utf8Bytes_ascii h, List.mem_singleton] at hb
            exact hc (hb.symm.trans e)
          · have := utf8Bytes_high (not_lt.mp h) b hb
            rw [e] at this
            exact absurd this (by decide)
        have hcut : cstr (c :: s) = c :: cstr s := by
          rw [cstr, List.takeWhile_cons, if_pos (decide_eq_true hc)]
          rfl
        rw [hcut, utf8_cons, utf8_cons, ← ih, cstr, List.takeWhile_append_of_pos hbytes]
        rfl

/-- **What `read_body` returns for the data of a form** that arrive whole. -/
theorem read_formData {ssid password : CText} {parse : CText → Option Json}
    (hparse : ReadsJson parse) {s : BodyRead} {body : Option Json}
    (hs : ssid.length ≤ 31) (hp : password.length ≤ 63)
    (h : Reach (readBody parse (formData ssid password).length (formData ssid password)) Always s)
    (hr : s.result = some body) :
    s.total = (formData ssid password).length ∧
        body = some ((Json.obj (formBody ssid password)).mapStr utf8) ∨
      body = none ∧ s.total ≠ (formData ssid password).length := by
  have hfit := formData_length hs hp
  have hprint : formData ssid password =
      ((Json.obj (formBody ssid password)).mapStr utf8).print intText :=
    (print_utf8 intFormat _).symm
  have hpos : 0 < (formData ssid password).length := by
    rw [hprint]
    exact Dialect.print_length_pos intFormat _
  have hnul : '\x00' ∉ formData ssid password := by
    intro hm
    rw [hprint] at hm
    exact absurd (print_ge intFormat _ _ hm) (by decide)
  rcases (bodyInv_reach h).returned body hr with ⟨rfl, hwhy⟩ | ⟨-, -, htotal, rfl⟩
  · refine Or.inr ⟨rfl, fun e => ?_⟩
    rcases hwhy with h0 | h1 | h2 <;> omega
  · refine Or.inl ⟨htotal, ?_⟩
    have hread := Dialect.parse_print intFormat (jsonText false)
      ((Json.obj (formBody ssid password)).mapStr utf8) (r := []) fun c hc => absurd hc (by simp)
    rw [List.append_nil, ← hprint] at hread
    rw [List.take_length, cstr_of_not_mem hnul, hparse _ _ hread rfl]
    rfl

/-- **The pair the device takes**, in bytes. -/
def Taken (ssid password : CText) : Prop := ssid ≠ [] ∧ ssid.length < 32 ∧ ValidPassword password

instance (ssid password : CText) : Decidable (Taken ssid password) := by
  unfold Taken ValidPassword
  infer_instance

/-- What the device finds in the body. -/
theorem staRequest_form (ssid password : CText) :
    staRequest (some ((Json.obj (formBody ssid password)).mapStr utf8)) =
      if Taken (utf8 (cstr ssid)) (utf8 (cstr password)) then
        some (utf8 (cstr ssid), utf8 (cstr password))
      else none := by
  have h1 : utf8 "ssid".toList = "ssid".toList := utf8_ascii (CText.forall_of_all (by decide))
  have h2 : utf8 "password".toList = "password".toList :=
    utf8_ascii (CText.forall_of_all (by decide))
  have hbody : (Json.obj (formBody ssid password)).mapStr utf8 =
      .obj [("ssid".toList, .str (utf8 ssid)), ("password".toList, .str (utf8 password))] := by
    simp only [formBody, mapStr, mapStrMembers, h1, h2]
  have hssid : (bodyItem (some (.obj [("ssid".toList, .str (utf8 ssid)),
      ("password".toList, .str (utf8 password))])) "ssid".toList).bind valuestring =
        some (utf8 (cstr ssid)) := by
    rw [← cstr_utf8]
    rfl
  have hpassword : (bodyItem (some (.obj [("ssid".toList, .str (utf8 ssid)),
      ("password".toList, .str (utf8 password))])) "password".toList).bind valuestring =
        some (utf8 (cstr password)) := by
    rw [← cstr_utf8]
    rfl
  rw [hbody, staRequest, hssid, hpassword]
  exact if_congr Iff.rfl rfl rfl

end Form

/-! ## 3. The answer -/

section Answer

variable {cfg : Config} {read : ℚ → ℚ}

/-- **A response whose strings are UTF-8** is read as its tree. -/
theorem resJson_sendJson (hf : NumFormat cfg.numText read) (root ms : List (CText × Json)) (status : Nat)
    (h : Json.obj root = (Json.obj ms).mapStr utf8) :
    resJson (sendJson cfg root status).body = some (readBack read (.obj ms)) := by
  show jsonParse (Utf8Replace.decodeReplace ((Json.obj root).print cfg.numText)) = _
  rw [h, print_utf8 hf, Utf8Replace.decodeReplace_utf8]
  exact Dialect.loads_print hf python _

/-- The page on a refusal. -/
theorem postAnswer_error (hf : NumFormat cfg.numText read) {error : CText}
    (ha : ∀ c ∈ error, c.toNat < 128) : postAnswer (sendError cfg error 400) = .error (some error) := by
  have h1 : utf8 "error".toList = "error".toList := utf8_ascii (CText.forall_of_all (by decide))
  have hj := resJson_sendJson hf [("error".toList, .str error)] [("error".toList, .str error)] 400
    (by simp only [mapStr, mapStrMembers, h1, utf8_ascii ha])
  rw [postAnswer, sendError, hj]
  simp only [readBack, readBackMembers]
  rfl

/-- The page on an acceptance. -/
theorem postAnswer_accepted (hf : NumFormat cfg.numText read) {id : Nat} (hid : read id = id)
    (name password : CText) :
    postAnswer (networkStaPostAccepted cfg ⟨id, utf8 name, password⟩) = .ok (some id) (some name) := by
  have h1 : utf8 "state".toList = "state".toList := utf8_ascii (CText.forall_of_all (by decide))
  have h2 : utf8 "request_id".toList = "request_id".toList :=
    utf8_ascii (CText.forall_of_all (by decide))
  have h3 : utf8 "ssid".toList = "ssid".toList := utf8_ascii (CText.forall_of_all (by decide))
  have h4 : utf8 "connecting".toList = "connecting".toList :=
    utf8_ascii (CText.forall_of_all (by decide))
  have hj := resJson_sendJson hf [("state".toList, .str "connecting".toList),
    ("request_id".toList, .num (id : ℚ)), ("ssid".toList, .str (utf8 name))]
    [("state".toList, .str "connecting".toList), ("request_id".toList, .num (id : ℚ)),
      ("ssid".toList, .str name)] 200
    (by simp only [mapStr, mapStrMembers, h1, h2, h3, h4])
  rw [postAnswer, networkStaPostAccepted, hj]
  simp only [readBack, readBackMembers, hid]
  have hint : jsInt (.num (id : ℚ)) = some (id : Int) := by
    rw [jsInt, if_pos (by rw [Rat.den_natCast]), Rat.num_natCast]
  show PostAnswer.ok (jsInt (.num (id : ℚ))) (some name) = _
  rw [hint]

end Answer

/-- **WHAT IS QUEUED IS WHAT WAS TYPED**, whatever pieces the server hands the form out in, and the
    page is told so: behind a form that has arrived and is one the device takes, the queue holds the
    two fields in UTF-8, and the page remembers the name that was typed under the id of the queued
    request; behind every other form the page shows the refusal. -/
theorem form_round_trip {cfg : Config} {read : ℚ → ℚ} {ssid password : CText} {s : BodyRead}
    {body : Option Json} {id : Nat} (hs : ssid.length ≤ 31) (hp : password.length ≤ 63)
    (hparse : ReadsJson cfg.parse) (hf : NumFormat cfg.numText read) (hid : read id = id)
    (h : Reach (readBody cfg.parse (formData ssid password).length (formData ssid password))
      Always s) (hr : s.result = some body) :
    (s.total = (formData ssid password).length ∧ Taken (utf8 (cstr ssid)) (utf8 (cstr password)) →
      ∃ pair, staRequest body = some pair ∧
        credentials id pair.1 pair.2 = ⟨id, utf8 (cstr ssid), utf8 (cstr password)⟩ ∧
        postAnswer (networkStaPostAccepted cfg (credentials id pair.1 pair.2)) =
          .ok (some id) (some (cstr ssid))) ∧
    (¬ (s.total = (formData ssid password).length ∧
        Taken (utf8 (cstr ssid)) (utf8 (cstr password))) →
      ∃ response, networkStaPostRefused cfg body = some response ∧ postAnswer response =
        .error (some "ssid required (<32 chars); password must be empty or 8-63 chars".toList)) := by
  have hrefused : staRequest body = none → ∃ response, networkStaPostRefused cfg body = some response ∧
      postAnswer response =
        .error (some "ssid required (<32 chars); password must be empty or 8-63 chars".toList) := by
    intro hnone
    refine ⟨_, by rw [networkStaPostRefused, hnone], ?_⟩
    exact postAnswer_error hf (CText.forall_of_all (by decide))
  rcases read_formData hparse hs hp h hr with ⟨htotal, rfl⟩ | ⟨rfl, hnot⟩
  · have hsta := staRequest_form ssid password
    constructor
    · rintro ⟨-, htaken⟩
      rw [if_pos htaken] at hsta
      have hwhole := credentials_whole id hsta
      refine ⟨_, hsta, hwhole, ?_⟩
      rw [hwhole]
      exact postAnswer_accepted hf hid _ _
    · intro hn
      refine hrefused ?_
      rw [hsta, if_neg]
      exact fun ht => hn ⟨htotal, ht⟩
  · exact ⟨fun ht => absurd ht.1 hnot, fun _ => hrefused rfl⟩

/-- A form whose name has a character of two bytes. -/
def officeData : CText := formData "Büro".toList "geheim123".toList

/-- It arrives in two pieces. -/
def officeRead : BodyRead :=
  (readBody benchBoot.cfg.parse officeData.length officeData).runEnd
    (.start officeData.length officeData (List.replicate jsonBodyMax '?'))
    [10, officeData.length - 10]

set_option maxRecDepth 20000 in
/-- The name that was typed comes back under the id of the request. -/
theorem form_round_trip_office :
    ∃ body pair, officeRead.result = some body ∧ staRequest body = some pair ∧
      postAnswer (networkStaPostAccepted benchBoot.cfg (credentials 7 pair.1 pair.2)) =
        .ok (some 7) (some "Büro".toList) := by
  have hreach : Reach (readBody benchBoot.cfg.parse officeData.length officeData) Always
      officeRead :=
    reach_runEnd (.start ⟨_, List.length_replicate, rfl⟩) (by decide +kernel)
  obtain ⟨body, hbody⟩ := Option.isSome_iff_exists.mp
    (show officeRead.result.isSome = true by decide +kernel)
  have h7 : ((((7 : Nat) : ℚ).num.toNat : Nat) : ℚ) = ((7 : Nat) : ℚ) := by
    rw [Rat.num_natCast, Int.toNat_natCast]
  obtain ⟨pair, h1, -, h3⟩ := (form_round_trip (by decide) (by decide) readsJson_jsonText decimalFormat
    h7 hreach hbody).1 (by decide +kernel)
  exact ⟨body, pair, hbody, h1, h3⟩

end DragonBench
