/-
  File:      DragonBench/Lib/JsonSplice.lean
  Subject:   Raw text spliced between the quotes of a JSON string.

  A program that builds JSON with a format string puts a raw text `s` between two quotes. A
  reader gives `s` back exactly when every character of `s` stands for itself (`Dialect.plain`):
  a quote in `s` ends the string early, and every escape is longer than what it stands for, so a
  text with a backslash comes back shorter, or, when its last backslash swallows the closing
  quote, with another last character.

  * `stringBody_plain` -- a plain text is read back;
  * `stringBody_splice` -- only a plain text is.
-/
import DragonBench.Lib.JsonRoundTrip

namespace Json.Dialect

variable (d : Dialect)

/-- The characters that stand for themselves inside a string. -/
def plain (c : Char) : Bool := decide (c ≠ '"') && (decide (c ≠ '\\') && d.literal c)

theorem plain_iff {c : Char} : d.plain c = true ↔ c ≠ '"' ∧ c ≠ '\\' ∧ d.literal c = true := by
  simp only [plain, Bool.and_eq_true, decide_eq_true_eq]

/-- **A plain text between quotes is read back.** -/
theorem stringBody_plain {s : CText} (h : ∀ c ∈ s, d.plain c = true) (r : CText) :
    d.stringBody (s ++ '"' :: r) = some (s, r) := by
  induction s with
  | nil => exact d.stringBody_quote r
  | cons c s ih =>
      obtain ⟨hq, hb, hl⟩ := d.plain_iff.mp (h c List.mem_cons_self)
      rw [List.cons_append, d.stringBody_literal hq hb hl,
        ih fun x hx => h x (List.mem_cons_of_mem c hx)]
      rfl

/-! ## The ways a string can start -/

/-- What reading one item of a string means: a text `u` for the characters `w`. -/
inductive Item (d : Dialect) : CText → CText → Prop where
  | literal {c : Char} (hq : c ≠ '"') (hb : c ≠ '\\') (hl : d.literal c = true) : Item d [c] [c]
  | simple {e x : Char} (h : simpleEscape e = some x) : Item d ['\\', e] [x]
  | unicode {a b x y : Char} {u : Nat} (h : hex4 a b x y = some u) :
      Item d ['\\', 'u', a, b, x, y] (d.encode u)
  | pair {a b x y a' b' x' y' : Char} {u l n : Nat} (h : hex4 a b x y = some u)
      (h' : hex4 a' b' x' y' = some l) :
      Item d ['\\', 'u', a, b, x, y, '\\', 'u', a', b', x', y'] (d.encode n)

/-- A string that is read is empty or starts with an item. -/
theorem stringBody_cases {s v r : CText} (h : d.stringBody s = some (v, r)) :
    (v = [] ∧ s = '"' :: r) ∨
      ∃ w u s' v', s = w ++ s' ∧ v = u ++ v' ∧ Item d w u ∧ d.stringBody s' = some (v', r) := by
  rw [stringBody.eq_def] at h
  split at h
  · cases h
  · rename_i c r₀
    split at h
    · rename_i hq
      subst hq
      cases h
      exact Or.inl ⟨rfl, rfl⟩
    · rename_i hq
      right
      split at h
      · rename_i hb
        subst hb
        split at h
        · cases h
        · rename_i a b x y r₁
          split at h
          · cases h
          · rename_i u hu
            split at h
            · split at h
              · rename_i a' b' x' y' r₂
                split at h
                · cases h
                · rename_i l hl
                  split at h
                  · obtain ⟨p, hp, e⟩ := Option.map_eq_some_iff.mp h
                    cases e
                    exact ⟨_, _, r₂, p.1, rfl, rfl, .pair hu hl, hp⟩
                  · cases h
              · cases h
            · split at h
              · cases h
              · obtain ⟨p, hp, e⟩ := Option.map_eq_some_iff.mp h
                cases e
                exact ⟨_, _, r₁, p.1, rfl, rfl, .unicode hu, hp⟩
        · rename_i e r₁ _
          split at h
          · cases h
          · rename_i x hx
            obtain ⟨p, hp, e⟩ := Option.map_eq_some_iff.mp h
            cases e
            exact ⟨_, _, r₁, p.1, rfl, rfl, .simple hx, hp⟩
      · rename_i hb
        split at h
        · rename_i hl
          obtain ⟨p, hp, e⟩ := Option.map_eq_some_iff.mp h
          cases e
          exact ⟨_, _, r₀, p.1, rfl, rfl, .literal hq hb hl, hp⟩
        · cases h

/-! ## Only plain text is read back -/

/-- A hexadecimal digit is no quote. -/
theorem hexValue_ne_quote {c : Char} {n : Nat} (h : hexValue c = some n) : c ≠ '"' := by
  intro e
  subst e
  simp [hexValue] at h

/-- The digits of an escape hold no quote. -/
theorem hex4_no_quote {a b x y : Char} {u : Nat} (h : hex4 a b x y = some u) :
    a ≠ '"' ∧ b ≠ '"' ∧ x ≠ '"' ∧ y ≠ '"' := by
  obtain ⟨w, hw, h⟩ := Option.bind_eq_some_iff.mp h
  obtain ⟨z, hz, h⟩ := Option.bind_eq_some_iff.mp h
  obtain ⟨k, hk, h⟩ := Option.bind_eq_some_iff.mp h
  obtain ⟨m, hm, _⟩ := Option.map_eq_some_iff.mp h
  exact ⟨hexValue_ne_quote hw, hexValue_ne_quote hz, hexValue_ne_quote hk, hexValue_ne_quote hm⟩

/-- An item without a quote lies inside the text in front of a quote. -/
theorem split_before_quote {w s s' t : CText} (hw : ∀ c ∈ w, c ≠ '"')
    (h : s ++ '"' :: t = w ++ s') : ∃ s₁, s = w ++ s₁ ∧ s' = s₁ ++ '"' :: t := by
  rcases List.append_eq_append_iff.mp h with ⟨a, hw', hs'⟩ | ⟨a, hs, hs'⟩
  · cases a with
    | nil => exact ⟨[], by rw [hw', List.append_nil, List.append_nil], hs'.symm⟩
    | cons c a =>
        cases hs'
        exact absurd rfl (hw '"' (by rw [hw']; simp))
  · exact ⟨a, hs, hs'⟩

/-- What a text comes back as: at most as long, and as long only when it is plain; or, when its
    last backslash took the closing quote, at most one longer and ending in the comma. -/
def Comes (s v : CText) : Prop :=
  (v.length ≤ s.length ∧ (v.length = s.length → ∀ c ∈ s, d.plain c = true)) ∨
    (s.getLast? = some '\\' ∧ v.getLast? = some ',' ∧ v.length ≤ s.length + 1)

/-- A shrinking item in front. -/
theorem comes_item {w u s v : CText} (hwu : u.length < w.length) (h : d.Comes s v) :
    d.Comes (w ++ s) (u ++ v) := by
  rcases h with ⟨hle, _⟩ | ⟨hs, hv, hle⟩
  · left
    simp only [List.length_append]
    exact ⟨by omega, fun e => absurd e (by omega)⟩
  · right
    rw [List.getLast?_append, List.getLast?_append, hs, hv]
    refine ⟨rfl, rfl, ?_⟩
    simp only [List.length_append]
    omega

/-- A plain character in front. -/
theorem comes_literal {c : Char} {s v : CText} (hc : d.plain c = true) (h : d.Comes s v) :
    d.Comes (c :: s) (c :: v) := by
  rcases h with ⟨hle, hp⟩ | ⟨hs, hv, hle⟩
  · left
    refine ⟨Nat.succ_le_succ hle, fun e x hx => ?_⟩
    rcases List.mem_cons.mp hx with rfl | hx
    · exact hc
    · exact hp (Nat.succ.inj e) x hx
  · right
    rw [List.getLast?_cons, List.getLast?_cons, hs, hv]
    exact ⟨rfl, rfl, Nat.succ_le_succ hle⟩

theorem stringBody_comes (n : Nat) : ∀ {s t v r : CText}, s.length ≤ n →
    d.stringBody (s ++ '"' :: ',' :: '"' :: t) = some (v, r) → d.Comes s v := by
  induction n with
  | zero =>
      intro s t v r hn h
      have hs := List.eq_nil_of_length_eq_zero (Nat.le_zero.mp hn)
      subst hs
      rw [List.nil_append, d.stringBody_quote] at h
      cases h
      exact Or.inl ⟨Nat.le_refl _, fun _ c hc => absurd hc List.not_mem_nil⟩
  | succ n ih =>
      intro s t v r hn h
      have inside : ∀ {w u s' v' : CText}, (∀ c ∈ w, c ≠ '"') → w ≠ [] → u.length < w.length →
          s ++ '"' :: ',' :: '"' :: t = w ++ s' → d.stringBody s' = some (v', r) →
          d.Comes s (u ++ v') := by
        intro w u s' v' hw hne hwu hs hr
        obtain ⟨s₁, rfl, rfl⟩ := split_before_quote hw hs
        have hpos := List.length_pos_of_ne_nil hne
        rw [List.length_append] at hn
        exact d.comes_item hwu (ih (by omega) hr)
      rcases d.stringBody_cases h with ⟨rfl, _⟩ | ⟨w, u, s', v', hs, rfl, hi, hr⟩
      · refine Or.inl ⟨Nat.zero_le _, fun e c hc => ?_⟩
        rw [List.eq_nil_of_length_eq_zero e.symm] at hc
        exact absurd hc List.not_mem_nil
      · cases hi with
        | @literal c hq hb hl =>
            obtain ⟨s₁, rfl, rfl⟩ := split_before_quote (w := [c]) (by simpa using hq) hs
            have hlen : s₁.length ≤ n := by simpa using hn
            exact d.comes_literal (d.plain_iff.mpr ⟨hq, hb, hl⟩) (ih hlen hr)
        | @simple e x hx =>
            by_cases he : e = '"'
            · subst he
              cases s with
              | nil => cases hs
              | cons c s =>
                  cases s with
                  | nil =>
                      -- the text is a lone backslash, which takes the closing quote
                      cases hs
                      cases hx
                      have hc : (',' : Char) ≠ '"' := by decide
                      have hc' : (',' : Char) ≠ '\\' := by decide
                      rw [d.stringBody_literal hc hc' (d.literal_of_le _ (by decide)),
                        d.stringBody_quote] at hr
                      cases hr
                      exact Or.inr ⟨rfl, rfl, Nat.le_refl _⟩
                  | cons c' s =>
                      cases hs
                      simp only [List.length_cons] at hn
                      exact d.comes_item (w := ['\\', '"']) (by simp) (ih (by omega) hr)
            · refine inside ?_ (by simp) (by simp) hs hr
              intro c hc
              rcases List.mem_pair.mp hc with rfl | rfl
              · decide
              · exact he
        | @unicode a b x y u hu =>
            have hle := d.encode_length u
            refine inside ?_ (by simp) (by simp only [List.length_cons, List.length_nil]; omega) hs hr
            obtain ⟨ha, hb, hx, hy⟩ := hex4_no_quote hu
            simp only [List.mem_cons, List.not_mem_nil, or_false]
            rintro c (rfl | rfl | rfl | rfl | rfl | rfl) <;> first | assumption | decide
        | @pair a b x y a' b' x' y' u l m hu hl =>
            have hle := d.encode_length m
            refine inside ?_ (by simp) (by simp only [List.length_cons, List.length_nil]; omega) hs hr
            obtain ⟨ha, hb, hx, hy⟩ := hex4_no_quote hu
            obtain ⟨ha', hb', hx', hy'⟩ := hex4_no_quote hl
            simp only [List.mem_cons, List.not_mem_nil, or_false]
            rintro c (rfl | rfl | rfl | rfl | rfl | rfl | rfl | rfl | rfl | rfl | rfl | rfl) <;>
              first | assumption | decide

/-- **A text spliced in front of `","` is read back only when it is plain**, even by a program
    that sees no more of the result than a prefix `p` in front of a character that `s` lacks. -/
theorem stringBody_splice {s t v r p : CText} {x : Char}
    (h : d.stringBody (s ++ '"' :: ',' :: '"' :: t) = some (v, r))
    (hv : v = s ∨ v = s ++ x :: p) (hc : x ≠ ',') : ∀ c ∈ s, d.plain c = true := by
  rcases d.stringBody_comes s.length (Nat.le_refl _) h with ⟨hle, hp⟩ | ⟨hs, hlast, hle⟩
  · rcases hv with rfl | rfl
    · exact hp rfl
    · simp only [List.length_append, List.length_cons] at hle
      omega
  · rcases hv with rfl | rfl
    · rw [hs] at hlast
      cases hlast
    · have hnil : p = [] := by
        simp only [List.length_append, List.length_cons] at hle
        exact List.eq_nil_of_length_eq_zero (by omega)
      subst hnil
      rw [List.getLast?_concat] at hlast
      exact absurd (Option.some.inj hlast) hc

/-- What was read of an object starts with its first member. -/
theorem members_head {n : Nat} {s : CText} {q : List (CText × Json) × CText}
    (h : d.members (n + 1) ('"' :: s) = some q) : ∃ k r₀ r x r' ms,
      d.stringBody s = some (k, r₀) ∧ d.skip r₀ = ':' :: r ∧ d.value n r = some (x, r') ∧
        q.1 = (k, x) :: ms := by
  rw [members, d.skip_cons (by decide)] at h
  obtain ⟨⟨k, r₀⟩, hk, h⟩ := Option.bind_eq_some_iff.mp h
  dsimp only at h
  split at h
  · rename_i r hr
    obtain ⟨⟨x, r'⟩, hx, h⟩ := Option.bind_eq_some_iff.mp h
    dsimp only at h
    split at h
    · obtain ⟨q', -, rfl⟩ := Option.map_eq_some_iff.mp h
      exact ⟨k, r₀, r, x, r', q'.1, hk, hr, hx, rfl⟩
    · cases h
      exact ⟨k, r₀, r, x, r', [], hk, hr, hx, rfl⟩
    · cases h
  · cases h

end Json.Dialect
