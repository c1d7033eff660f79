/-
  File:      DragonBench/Lib/KeyedList.lean
  Subject:   Lists whose entries carry distinct keys, and the replacement of one entry by another
             with the same key.

  * `eq_of_key` -- the key names the entry;
  * `map_key_set` -- replacing an entry keeps the keys;
  * `mem_set_iff` -- what the list holds afterwards: the new entry, and the old entries with
    another key;
  * `exists_set` -- what the entry of a key has, it keeps when the replacement keeps it;
  * `filterMap_set` -- what a replacement does to a projection of the list.
-/
import Mathlib.Data.List.Basic
import Mathlib.Data.List.Nodup

namespace KeyedList

universe u v

variable {α : Type u} {κ : Type v} {key : α → κ} {l : List α}

/-- The key names the entry. -/
theorem eq_of_key (hn : (l.map key).Nodup) {a b : α} (ha : a ∈ l) (hb : b ∈ l)
    (h : key a = key b) : a = b :=
  List.inj_on_of_nodup_map hn ha hb h

/-- Replacing an entry by one with the same key keeps the keys. -/
theorem map_key_set {i : Nat} {a a' : α} (ha : l[i]? = some a) (h : key a' = key a) :
    (l.set i a').map key = l.map key := by
  obtain ⟨hi, rfl⟩ := List.getElem?_eq_some_iff.mp ha
  rw [List.map_set, h, ← List.getElem_map (f := key) (h := by rwa [List.length_map]),
    List.set_getElem_self]

/-- **What the list holds after a replacement.** -/
theorem mem_set_iff (hn : (l.map key).Nodup) {i : Nat} {a a' : α} (ha : l[i]? = some a)
    (h : key a' = key a) {b : α} : b ∈ l.set i a' ↔ b = a' ∨ b ∈ l ∧ key b ≠ key a := by
  obtain ⟨hi, rfl⟩ := List.getElem?_eq_some_iff.mp ha
  have hn' : ((l.set i a').map key).Nodup := by rwa [map_key_set ha h]
  have hself : a' ∈ l.set i a' := List.mem_set hi a'
  constructor
  · intro hb
    by_cases hk : key b = key l[i]
    · exact Or.inl (eq_of_key hn' hb hself (hk.trans h.symm))
    · rcases List.mem_or_eq_of_mem_set hb with hb | hb
      · exact Or.inr ⟨hb, hk⟩
      · exact Or.inl hb
  · rintro (rfl | ⟨hb, hk⟩)
    · exact hself
    · obtain ⟨j, hj, rfl⟩ := List.mem_iff_getElem.mp hb
      have hij : i ≠ j := by
        intro e
        subst e
        exact hk rfl
      refine List.mem_iff_getElem.mpr ⟨j, by rwa [List.length_set], ?_⟩
      rw [List.getElem_set_ne hij]

/-- **A property of the entry of a key** survives a replacement that keeps it. -/
theorem exists_set (hn : (l.map key).Nodup) {i : Nat} {a a' : α} (ha : l[i]? = some a)
    (h : key a' = key a) {P : α → Prop} (hP : P a → P a') {k : κ}
    (he : ∃ b ∈ l, key b = k ∧ P b) : ∃ b ∈ l.set i a', key b = k ∧ P b := by
  obtain ⟨b, hb, rfl, hPb⟩ := he
  by_cases hk : key b = key a
  · have e := eq_of_key hn hb (List.mem_of_getElem? ha) hk
    subst e
    exact ⟨a', (mem_set_iff hn ha h).mpr (Or.inl rfl), h, hP hPb⟩
  · exact ⟨b, (mem_set_iff hn ha h).mpr (Or.inr ⟨hb, hk⟩), rfl, hPb⟩

/-- What replacing an entry does to a projection of the list, with no word about keys. -/
theorem filterMap_set {β : Type v} (f : α → Option β) {i : Nat} {a : α} (ha : l[i]? = some a) :
    ∃ pre post, l.filterMap f = pre ++ (f a).toList ++ post ∧
      ∀ a', (l.set i a').filterMap f = pre ++ (f a').toList ++ post := by
  obtain ⟨hi, rfl⟩ := List.getElem?_eq_some_iff.mp ha
  have hset : ∀ a', (l.set i a').filterMap f =
      (l.take i).filterMap f ++ (f a').toList ++ (l.drop (i + 1)).filterMap f := by
    intro a'
    rw [List.set_eq_take_append_cons_drop, if_pos hi, List.filterMap_append, List.append_assoc]
    cases h : f a' with
    | none => rw [List.filterMap_cons_none h, Option.toList_none, List.nil_append]
    | some b => rw [List.filterMap_cons_some h, Option.toList_some, List.singleton_append]
  refine ⟨_, _, ?_, hset⟩
  rw [← hset l[i], List.set_getElem_self]

end KeyedList
