/-
  File:      DragonBench/Hostname.lean
  Subject:   THE NAMES OF A BOARD: `db_network_identity` and `db_mdns_hostname`.

  Both write C strings into buffers of their callers. A buffer is the memory from its address on,
  as far as it is looked at, so that what stands behind the buffer is part of it.

  * `dbNetworkIdentity`, `dbMdnsHostname` -- the two functions;
  * `hostnameLoop_eq`, `dbMdnsHostname_eq` -- the loop writes the lowered prefix that fits, and its
    NUL, and nothing else;
  * `HostnameAlwaysWritten`, `hostname_not_written` -- without a source nothing is written;
  * `defaultHostname` -- the name of a board whose name is not configured;
  * **`mdns_hostname_spec`** -- what the hostname is, and that boards share a default one exactly
    when their addresses end alike.
-/
import Mathlib.Data.Fin.VecNotation
import DragonBench.Lib.Text

namespace DragonBench

/-! ## 1. `db_network_identity` -/

/-- `uint8_t mac[6]` -/
abbrev Mac := Fin 6 → UInt8

/-- `DB_DEVICE_SUFFIX_LEN`. -/
def dbDeviceSuffixLen : Nat := 7

/-- `DB_DEVICE_ID_LEN`. -/
def dbDeviceIdLen : Nat := 19

/-- `DB_AP_SSID_LEN`. -/
def dbApSsidLen : Nat := 33

/-- The three buffers behind `db_network_identity`, as C strings. -/
structure NetworkIdentity where
  suffix : CText
  deviceId : CText
  ssid : CText
  deriving DecidableEq

/-- `%02X%02X%02X` of the last three octets. -/
def macSuffix (mac : Mac) : CText := CText.hex02 (mac 3) ++ CText.hex02 (mac 4) ++ CText.hex02 (mac 5)

/-- `db_network_identity`, on buffers of these sizes; NULL is `none`. `none` is the return in front
    of the first `snprintf`, otherwise the Boolean is what is returned. -/
def dbNetworkIdentity (mac : Option Mac) (suffixSize deviceIdSize ssidSize : Option Nat) :
    Option (NetworkIdentity × Bool) :=
  match mac, suffixSize, deviceIdSize, ssidSize with
  | some mac, some suffixSize, some deviceIdSize, some ssidSize =>
    if suffixSize < dbDeviceSuffixLen ∨ deviceIdSize < dbDeviceIdLen ∨ ssidSize < dbApSsidLen then
      none
    else
      let suffix := CText.snprintf suffixSize (macSuffix mac)
      let deviceId := "dragonbench-".toList ++ suffix
      let ssid := "DragonBench-".toList ++ suffix
      some (⟨suffix, CText.snprintf deviceIdSize deviceId, CText.snprintf ssidSize ssid⟩,
        decide ((macSuffix mac).length = dbDeviceSuffixLen - 1) &&
          (decide (0 < deviceId.length) && decide (deviceId.length < deviceIdSize)) &&
          (decide (0 < ssid.length) && decide (ssid.length < ssidSize)))
  | _, _, _, _ => none

/-- **Buffers of the sizes of the header hold everything.** -/
theorem dbNetworkIdentity_eq (mac : Mac) :
    dbNetworkIdentity (some mac) (some dbDeviceSuffixLen) (some dbDeviceIdLen) (some dbApSsidLen) =
      some (⟨macSuffix mac, "dragonbench-".toList ++ macSuffix mac,
        "DragonBench-".toList ++ macSuffix mac⟩, true) := rfl

/-! ## 2. `db_mdns_hostname` -/

/-- The loop and the write behind it, at index `i`, with what is left of the source. -/
def hostnameLoop (outSize : Nat) : CText → Nat → List Char → Bool × List Char
  | [], i, out => (true, out.set i '\x00')
  | c :: source, i, out =>
    if i + 1 < outSize then hostnameLoop outSize source (i + 1) (out.set i (CText.lowerChar c))
    else (false, out.set i '\x00')

/-- `(configured && configured[0]) ? configured : device_id`. -/
def hostnameSource (configured deviceId : Option CText) : Option CText :=
  match configured with
  | some (c :: name) => some (c :: name)
  | _ => deviceId

/-- `db_mdns_hostname`; NULL is `none`. -/
def dbMdnsHostname (configured deviceId : Option CText) (out : Option (List Char)) (outSize : Nat) :
    Bool × Option (List Char) :=
  match hostnameSource configured deviceId, out with
  | some (c :: source), some mem =>
    if outSize = 0 then (false, some mem)
    else
      let r := hostnameLoop outSize (c :: source) 0 mem
      (r.1, some r.2)
  | _, _ => (false, out)

/-- A byte written behind what has been written. -/
theorem set_written (written : CText) (x c : Char) (rest : List Char) :
    (written ++ x :: rest).set written.length c = written ++ [c] ++ rest := by
  rw [List.set_append_right (h := Nat.le_refl _), Nat.sub_self, List.set_cons_zero,
    List.append_assoc]
  rfl

/-- **The loop writes the lowered prefix that fits, and its NUL**, behind what has been written. -/
theorem hostnameLoop_eq {outSize : Nat} (source written : CText) {rest : List Char}
    (hi : written.length < outSize) (hmem : outSize ≤ written.length + rest.length) :
    hostnameLoop outSize source written.length (written ++ rest) =
      (decide (written.length + source.length < outSize),
        written ++ CText.overwrite rest
          (CText.lower (CText.snprintf (outSize - written.length) source))) := by
  induction source generalizing written rest with
  | nil =>
      cases rest with
      | nil => exact absurd hmem (by simpa using hi)
      | cons x rest =>
          unfold hostnameLoop
          rw [set_written, List.append_assoc]
          simp [hi, CText.snprintf, CText.lower, CText.overwrite]
  | cons c source ih =>
      cases rest with
      | nil => exact absurd hmem (by simpa using hi)
      | cons x rest =>
          unfold hostnameLoop
          rw [set_written, set_written]
          have hlen : (written ++ [CText.lowerChar c]).length = written.length + 1 :=
            List.length_append
          rw [List.length_cons] at hmem
          by_cases h : written.length + 1 < outSize
          · have hcopy : CText.snprintf (outSize - written.length) (c :: source) =
                c :: CText.snprintf (outSize - (written.length + 1)) source := by
              obtain ⟨k, hk⟩ : ∃ k, outSize - written.length = k + 2 :=
                ⟨outSize - written.length - 2, by omega⟩
              have hk' : outSize - (written.length + 1) = k + 1 := by omega
              rw [hk, hk']
              rfl
            have hstep := @ih (written ++ [CText.lowerChar c]) rest (by omega) (by omega)
            rw [hlen] at hstep
            have hfits : (written.length + 1 + source.length < outSize) =
                (written.length + (c :: source).length < outSize) := by
              rw [List.length_cons, Nat.add_assoc, Nat.add_comm 1]
            simp only [if_pos h, hstep, hcopy, hfits]
            rw [List.append_assoc]
            rfl
          · have hcopy : CText.snprintf (outSize - written.length) (c :: source) = [] := by
              have hk : outSize - written.length = 1 := by omega
              rw [hk]
              rfl
            have hfits : ¬ written.length + (c :: source).length < outSize := by
              rw [List.length_cons]
              omega
            rw [if_neg h, hcopy, decide_eq_false hfits, List.append_assoc]
            rfl

/-- **What `db_mdns_hostname` writes and returns** for a source and a buffer that are there. -/
theorem dbMdnsHostname_eq {configured deviceId : Option CText} {source : CText} {mem : List Char}
    {outSize : Nat} (hs : hostnameSource configured deviceId = some source) (hne : source ≠ [])
    (hpos : 0 < outSize) (hmem : outSize ≤ mem.length) :
    dbMdnsHostname configured deviceId (some mem) outSize =
      (decide (source.length < outSize),
        some (CText.overwrite mem (CText.lower (CText.snprintf outSize source)))) := by
  cases source with
  | nil => exact absurd rfl hne
  | cons c source =>
      have hloop := @hostnameLoop_eq outSize (c :: source) [] mem hpos (by simpa using hmem)
      simp only [List.length_nil, Nat.zero_add, Nat.sub_zero, List.nil_append] at hloop
      unfold dbMdnsHostname
      simp only [hs, Nat.ne_of_gt hpos, if_false, hloop]

/-- Otherwise it writes nothing. -/
theorem dbMdnsHostname_silent {configured deviceId : Option CText} {mem : List Char}
    {outSize : Nat}
    (h : (hostnameSource configured deviceId).getD [] = [] ∨ outSize = 0) :
    dbMdnsHostname configured deviceId (some mem) outSize = (false, some mem) := by
  unfold dbMdnsHostname
  cases hs : hostnameSource configured deviceId with
  | none => rfl
  | some source =>
      cases source with
      | nil => rfl
      | cons c source =>
          rw [hs] at h
          rcases h with h | rfl
          · cases h
          · rfl

/-- The chosen source, the empty text for NULL. -/
def hostnameText (configured deviceId : Option CText) : CText :=
  (hostnameSource configured deviceId).getD []

/-- **The lowered prefix of the source, and its NUL, stand in the buffer**, whatever the source. -/
def HostnameAlwaysWritten : Prop :=
  ∀ configured deviceId mem outSize, outSize ≤ mem.length → ∃ mem',
    (dbMdnsHostname configured deviceId (some mem) outSize).2 = some mem' ∧
      CText.lower (CText.snprintf outSize (hostnameText configured deviceId)) ++ ['\x00'] <+: mem'

/-- **An empty device id leaves the buffer as it was**, without a NUL. -/
theorem hostname_not_written : ¬ HostnameAlwaysWritten := by
  intro h
  obtain ⟨mem', hmem, hfront⟩ := h (some []) (some []) (List.replicate 8 'x') 8 (by decide)
  have e : List.replicate 8 'x' = mem' := Option.some_inj.mp hmem
  subst e
  exact absurd hfront (by decide)

/-- **What `db_mdns_hostname` does**: it returns true exactly when the source is there and fits;
    it writes the lowered prefix that fits, its NUL and nothing else, or nothing; and never behind
    the buffer. -/
structure HostnameSpec (configured deviceId : Option CText) (mem : List Char) (outSize : Nat) :
    Prop where
  returned : (dbMdnsHostname configured deviceId (some mem) outSize).1 = true ↔
    hostnameText configured deviceId ≠ [] ∧ (hostnameText configured deviceId).length < outSize
  written : hostnameText configured deviceId ≠ [] → 0 < outSize →
    (dbMdnsHostname configured deviceId (some mem) outSize).2 = some (CText.overwrite mem
      (CText.lower (CText.snprintf outSize (hostnameText configured deviceId))))
  silent : hostnameText configured deviceId = [] ∨ outSize = 0 →
    (dbMdnsHostname configured deviceId (some mem) outSize).2 = some mem
  within : ∃ mem', (dbMdnsHostname configured deviceId (some mem) outSize).2 = some mem' ∧
    mem'.length = mem.length ∧ mem'.drop outSize = mem.drop outSize

/-- A text that fits into the buffer leaves what stands behind it. -/
theorem drop_overwrite {mem : List Char} {s : CText} {n : Nat} (hs : s.length < n) :
    (CText.overwrite mem s).drop n = mem.drop n := by
  obtain ⟨k, rfl⟩ : ∃ k, n = s.length + (k + 1) := ⟨n - s.length - 1, by omega⟩
  unfold CText.overwrite
  rw [List.drop_append, List.drop_of_length_le (by omega), Nat.add_sub_cancel_left,
    List.nil_append, List.drop_succ_cons, List.drop_drop]
  congr 1
  omega

theorem length_lower_snprintf {outSize : Nat} (h : 0 < outSize) (s : CText) :
    (CText.lower (CText.snprintf outSize s)).length < outSize := by
  rw [CText.length_lower, CText.snprintf, List.length_take]
  omega

theorem hostnameSpec {configured deviceId : Option CText} {mem : List Char} {outSize : Nat}
    (hmem : outSize ≤ mem.length) : HostnameSpec configured deviceId mem outSize := by
  by_cases h : hostnameText configured deviceId = [] ∨ outSize = 0
  · have hsilent := @dbMdnsHostname_silent configured deviceId mem outSize h
    refine ⟨?_, fun hne hpos => ?_, fun _ => by rw [hsilent], mem, by rw [hsilent], rfl, rfl⟩
    · rw [hsilent]
      refine iff_of_false Bool.false_ne_true ?_
      rintro ⟨hne, hlt⟩
      rcases h with h | h
      · exact hne h
      · omega
    · rcases h with h | h
      · exact absurd h hne
      · omega
  · obtain ⟨hne, hpos⟩ := not_or.mp h
    have hpos : 0 < outSize := Nat.pos_of_ne_zero hpos
    obtain ⟨source, hs⟩ : ∃ source, hostnameSource configured deviceId = some source := by
      cases hs : hostnameSource configured deviceId with
      | some source => exact ⟨source, rfl⟩
      | none => exact absurd (by rw [hostnameText, hs]; rfl) hne
    have htext : hostnameText configured deviceId = source := by rw [hostnameText, hs]; rfl
    have hwritten := dbMdnsHostname_eq hs (htext ▸ hne) hpos hmem
    have hlen := length_lower_snprintf hpos source
    refine ⟨?_, fun _ _ => by rw [hwritten, htext], fun h' => absurd h' h, _, by rw [hwritten],
      ?_, drop_overwrite hlen⟩
    · rw [hwritten, htext, decide_eq_true_iff]
      exact ⟨fun hlt => ⟨htext ▸ hne, hlt⟩, fun hlt => hlt.2⟩
    · exact CText.length_overwrite (Nat.lt_of_lt_of_le hlen hmem)

/-! ## 3. The default name -/

/-- `ap_ssid`. -/
def apSsid (mac : Mac) : Option CText :=
  (dbNetworkIdentity (some mac) (some dbDeviceSuffixLen) (some dbDeviceIdLen)
    (some dbApSsidLen)).map fun p => p.1.ssid

/-- The text in `mdns_hostname`, a buffer of this size, when no name is configured. -/
def defaultHostname (mac : Mac) (mem : List Char) (size : Nat) : Option CText :=
  (dbNetworkIdentity (some mac) (some dbDeviceSuffixLen) (some dbDeviceIdLen)
    (some dbApSsidLen)).bind fun p =>
    match dbMdnsHostname (some []) (some p.1.deviceId) (some mem) size with
    | (true, some mem') => some (CText.scan size mem')
    | _ => none

theorem nul_not_mem_lower_hex02 (b : UInt8) : '\x00' ∉ CText.lower (CText.hex02 b) := by
  have hdigit : ∀ d < 16, '\x00' ≠ d.digitChar := by decide
  have hb : b.toNat < 256 := b.toNat_lt
  rw [CText.lower_hex02]
  simp only [List.mem_cons, List.not_mem_nil, or_false, not_or]
  exact ⟨hdigit _ (by omega), hdigit _ (Nat.mod_lt _ (by omega))⟩

/-- `dragonbench-%s` of the suffix. -/
def deviceIdText (mac : Mac) : CText := "dragonbench-".toList ++ macSuffix mac

/-- `DragonBench-%s` of the suffix. -/
def ssidText (mac : Mac) : CText := "DragonBench-".toList ++ macSuffix mac

theorem lower_deviceIdText (mac : Mac) :
    CText.lower (deviceIdText mac) = CText.lower (ssidText mac) := by
  have hfront : CText.lower "dragonbench-".toList = CText.lower "DragonBench-".toList := by decide
  unfold deviceIdText ssidText
  rw [CText.lower_append, CText.lower_append, hfront]

theorem nul_not_mem_lower_ssidText (mac : Mac) : '\x00' ∉ CText.lower (ssidText mac) := by
  have hfront : '\x00' ∉ CText.lower "DragonBench-".toList := by decide
  unfold ssidText macSuffix
  simp only [CText.lower_append, List.mem_append, not_or]
  exact ⟨hfront, ⟨nul_not_mem_lower_hex02 _, nul_not_mem_lower_hex02 _⟩,
    nul_not_mem_lower_hex02 _⟩

/-- The name is the lowered SSID. -/
theorem defaultHostname_eq (mac : Mac) {mem : List Char} {size : Nat} (hsize : dbDeviceIdLen ≤ size)
    (hmem : size ≤ mem.length) :
    defaultHostname mac mem size = some (CText.lower (ssidText mac)) := by
  have hlt : (deviceIdText mac).length < size := hsize
  have hne : deviceIdText mac ≠ [] := List.ne_nil_of_length_pos (Nat.succ_pos 17)
  have hs : hostnameSource (some []) (some (deviceIdText mac)) = some (deviceIdText mac) := rfl
  have hwritten := dbMdnsHostname_eq hs hne (Nat.lt_of_le_of_lt (Nat.zero_le _) hlt) hmem
  rw [decide_eq_true hlt, CText.snprintf_of_lt hlt, lower_deviceIdText] at hwritten
  have hlen : (CText.lower (ssidText mac)).length ≤ size := by
    rw [← lower_deviceIdText, CText.length_lower]
    exact Nat.le_of_lt hlt
  unfold defaultHostname
  rw [dbNetworkIdentity_eq, Option.bind_some]
  dsimp only
  rw [show "dragonbench-".toList ++ macSuffix mac = deviceIdText mac from rfl, hwritten]
  dsimp only
  rw [CText.scan_overwrite mem hlen (nul_not_mem_lower_ssidText mac)]

theorem lower_macSuffix_inj (mac mac' : Mac) :
    CText.lower (macSuffix mac) = CText.lower (macSuffix mac') ↔
      mac 3 = mac' 3 ∧ mac 4 = mac' 4 ∧ mac 5 = mac' 5 := by
  constructor
  · intro h
    unfold macSuffix at h
    simp only [CText.lower_append] at h
    obtain ⟨h34, h5⟩ := List.append_inj h rfl
    obtain ⟨h3, h4⟩ := List.append_inj h34 rfl
    exact ⟨CText.lower_hex02_injective h3, CText.lower_hex02_injective h4,
      CText.lower_hex02_injective h5⟩
  · rintro ⟨h3, h4, h5⟩
    unfold macSuffix
    rw [h3, h4, h5]

/-- **The hostname.** For every configured name, device id and buffer: what is returned and
    written; and for two boards without a configured name, with buffers that hold a device id: their
    names are the lowered SSIDs of their access points, and the same exactly when the last three
    octets of their addresses are. -/
theorem mdns_hostname_spec :
    (∀ configured deviceId mem outSize, outSize ≤ mem.length →
      HostnameSpec configured deviceId mem outSize) ∧
    ∀ (mac mac' : Mac) (mem mem' : List Char) (size size' : Nat), dbDeviceIdLen ≤ size →
      dbDeviceIdLen ≤ size' → size ≤ mem.length → size' ≤ mem'.length →
      ∃ name name' ssid, defaultHostname mac mem size = some name ∧
        defaultHostname mac' mem' size' = some name' ∧ apSsid mac = some ssid ∧
        name = CText.lower ssid ∧
        (name = name' ↔ mac 3 = mac' 3 ∧ mac 4 = mac' 4 ∧ mac 5 = mac' 5) := by
  refine ⟨fun _ _ _ _ h => hostnameSpec h, ?_⟩
  intro mac mac' mem mem' size size' hsize hsize' hmem hmem'
  refine ⟨_, _, ssidText mac, defaultHostname_eq mac hsize hmem,
    defaultHostname_eq mac' hsize' hmem', ?_, rfl, ?_⟩
  · unfold apSsid
    rw [dbNetworkIdentity_eq]
    rfl
  · unfold ssidText
    rw [CText.lower_append, CText.lower_append, List.append_cancel_left_eq,
      lower_macSuffix_inj]

/-- The board of the tests, in a buffer that holds something already. -/
theorem mdns_hostname_spec_bench :
    (dbMdnsHostname (some "Bench-A".toList) none (some (List.replicate 10 'x')) 5).2 =
        some ("benc".toList ++ '\x00' :: "xxxxx".toList) ∧
      ∃ name, defaultHostname ![0x30, 0xed, 0xa0, 0xe2, 0xa1, 0x2c] (List.replicate 64 'x') 64 =
          some name ∧
        name = "dragonbench-e2a12c".toList := by
  have hspec := (mdns_hostname_spec.1 (some "Bench-A".toList) none (List.replicate 10 'x') 5
    (by decide)).written (by decide) (by decide)
  obtain ⟨name, -, ssid, hname, -, hssid, hlower, -⟩ := mdns_hostname_spec.2
    ![0x30, 0xed, 0xa0, 0xe2, 0xa1, 0x2c] ![0x30, 0xed, 0xa0, 0xe2, 0xa1, 0x2c]
    (List.replicate 64 'x') (List.replicate 64 'x') 64 64 (by decide) (by decide) (by decide)
    (by decide)
  refine ⟨hspec.trans (by decide), name, hname, ?_⟩
  have e : ssid = "DragonBench-E2A12C".toList := Option.some_inj.mp (hssid.symm.trans (by decide))
  rw [hlower, e]
  decide

end DragonBench
