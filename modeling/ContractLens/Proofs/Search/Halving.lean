import ContractLens.Search
import Mathlib.Tactic

/-!
# Halving a range of heights

`findChange` observes both ends of a range and halves it. Here the observation is a function `f`
that never fails; `changeBetween` is the search for it without effects.

Main results:

* `map_findChange`: a map between monads that keeps answers and sequences carries the search in one
  to the search in the other. `findChange_pure` is the case of an observation without effects.
* `changeBetween_eq_none_iff`: the search finds nothing exactly in an empty range and between ends
  that agree.
* `changeBetween_spec`: what it finds lies behind the lower end and up to the upper end, differs
  from the height before, and agrees with the upper end.
* `findChangeChecked_eq`: no sum or difference on the way leaves the words of 64 bits.
* `findChange_spec`: all of it for an observation in any monad.
-/

namespace ContractLens

/-! ## The middle of a range -/

/-- The height at which a range is cut in two. -/
def middle (low high : UInt64) : UInt64 := low + (high - low) / 2

theorem toNat_width {low high : UInt64} (h : low < high) :
    (high - low).toNat = high.toNat - low.toNat :=
  UInt64.toNat_sub_of_le _ _ (UInt64.le_of_lt h)

theorem toNat_middle {low high : UInt64} (h : low < high) :
    (middle low high).toNat = low.toNat + (high.toNat - low.toNat) / 2 := by
  have hh := high.toNat_lt
  have hlt : low.toNat < high.toNat := UInt64.lt_iff_toNat_lt.mp h
  have hhalf : ((high - low) / 2).toNat = (high.toNat - low.toNat) / 2 := by
    rw [UInt64.toNat_div, toNat_width h]; rfl
  rw [middle, UInt64.toNat_add, hhalf]
  omega

theorem toNat_succ {low high : UInt64} (h : low < high) : (low + 1).toNat = low.toNat + 1 := by
  have hh := high.toNat_lt
  have hlt : low.toNat < high.toNat := UInt64.lt_iff_toNat_lt.mp h
  rw [UInt64.toNat_add]
  simp only [UInt64.toNat_one]
  omega

/-- A range that is no single step has heights on both sides of its middle. -/
theorem middle_between {low high : UInt64} (h : low < high) (h1 : high ≠ low + 1) :
    low < middle low high ∧ middle low high < high := by
  have hlt : low.toNat < high.toNat := UInt64.lt_iff_toNat_lt.mp h
  have hne : high.toNat ≠ low.toNat + 1 := fun e => h1 (UInt64.toNat.inj (by rw [e, toNat_succ h]))
  rw [UInt64.lt_iff_toNat_lt, UInt64.lt_iff_toNat_lt, toNat_middle h]
  omega

/-! ## The search without effects -/

variable {β : Type} [BEq β]

/-- The height that is found when the observation at each height is known. -/
def changeBetween (f : UInt64 → β) (high low : UInt64) : Option UInt64 :=
  Id.run (findChange (fun n => pure (f n)) high low)

/-- One step of the search. -/
theorem changeBetween_eq (f : UInt64 → β) (high low : UInt64) :
    changeBetween f high low =
      if low < high then
        if f low == f high then none
        else if high = low + 1 then some high
        else (changeBetween f high (middle low high)).or (changeBetween f (middle low high) low)
      else none := by
  unfold changeBetween
  rw [findChange, pure_bind, pure_bind]
  split_ifs <;> rfl

theorem changeBetween_of_le (f : UInt64 → β) {high low : UInt64} (h : high ≤ low) :
    changeBetween f high low = none := by
  rw [changeBetween_eq, if_neg (UInt64.not_lt.mpr h)]

theorem changeBetween_of_beq {f : UInt64 → β} {high low : UInt64} (h : f low == f high) :
    changeBetween f high low = none := by
  rw [changeBetween_eq]
  split_ifs <;> rfl

section Maps

variable {m n : Type → Type} [Monad m] [Monad n]

/-- A map between monads that keeps answers and sequences carries the search over. -/
theorem map_findChange (φ : ∀ {α : Type}, m α → n α)
    (hpure : ∀ {α : Type} (a : α), φ (pure a : m α) = pure a)
    (hbind : ∀ {α γ : Type} (x : m α) (g : α → m γ), φ (x >>= g) = φ x >>= fun a => φ (g a))
    (observe : UInt64 → m β) (high low : UInt64) :
    φ (findChange observe high low) = findChange (fun k => φ (observe k)) high low := by
  induction high, low using findChange.induct with
  | case1 high low ihUpper ihLower =>
    rw [findChange, findChange, hbind]
    congr 1; funext atLow
    rw [hbind]
    congr 1; funext atHigh
    split_ifs with h he h1
    · exact hpure _
    · exact hpure _
    · simp only [hbind, hpure, ihUpper h h1, ihLower h h1]
    · exact hpure _

/-- An observation without effects is searched without effects. -/
theorem findChange_pure [LawfulMonad m] (f : UInt64 → β) (high low : UInt64) :
    findChange (fun k => (pure (f k) : m β)) high low = pure (changeBetween f high low) :=
  (map_findChange (m := Id) (fun x => pure x.run) (fun _ => rfl) (fun _ _ => by simp) _ _ _).symm

end Maps

/-! ## What is found -/

/-- The observation at a height differs from the one at the height before. -/
def ChangesAt (f : UInt64 → β) (n : UInt64) : Prop := ¬ f n == f (n - 1)

instance (f : UInt64 → β) (n : UInt64) : Decidable (ChangesAt f n) :=
  inferInstanceAs (Decidable (¬ _))

/-- At most one height behind `low` and up to `high` brings a change. -/
def ChangesAtMostOnce (f : UInt64 → β) (low high : UInt64) : Prop :=
  ∀ j k, low < j → j ≤ high → low < k → k ≤ high → ChangesAt f j → ChangesAt f k → j = k

section Equivalence

variable [EquivBEq β]

/-- Between ends that differ a height is found. The induction is on the halves: the upper one is
    taken if its ends differ, and else the middle agrees with the upper end. -/
theorem changeBetween_of_differ (f : UInt64 → β) (high low : UInt64) (h : low < high)
    (hne : ¬ f low == f high) :
    ∃ n, changeBetween f high low = some n ∧ low < n ∧ n ≤ high ∧ ChangesAt f n ∧
      f n == f high := by
  induction high, low using findChange.induct with
  | case1 high low ihUpper ihLower =>
    rw [changeBetween_eq, if_pos h, if_neg hne]
    by_cases h1 : high = low + 1
    · have hprev : high - 1 = low := by rw [h1, UInt64.add_sub_cancel]
      refine ⟨high, if_pos h1, h, UInt64.le_refl _, ?_, BEq.rfl⟩
      rw [ChangesAt, hprev]
      exact fun e => hne (BEq.symm e)
    · rw [if_neg h1]
      obtain ⟨hlm, hmh⟩ := middle_between h h1
      by_cases hup : f (middle low high) == f high
      · -- the upper half is settled, so the change lies in the lower one
        rw [changeBetween_of_beq hup, Option.none_or]
        obtain ⟨n, hn, hln, hnm, hc, heq⟩ := ihLower h h1 hlm fun e => hne (BEq.trans e hup)
        exact ⟨n, hn, hln, UInt64.le_trans hnm (UInt64.le_of_lt hmh), hc, BEq.trans heq hup⟩
      · obtain ⟨n, hn, hmn, hnh, hc, heq⟩ := ihUpper h h1 hmh hup
        refine ⟨n, ?_, UInt64.lt_trans hlm hmn, hnh, hc, heq⟩
        rw [show changeBetween f high (middle low high) = some n from hn, Option.some_or]

/-- Nothing is found exactly in an empty range and between ends that agree. -/
theorem changeBetween_eq_none_iff (f : UInt64 → β) (high low : UInt64) :
    changeBetween f high low = none ↔ high ≤ low ∨ f low == f high := by
  constructor
  · intro hnone
    by_contra hcon
    rw [not_or, UInt64.not_le] at hcon
    obtain ⟨n, hn, -⟩ := changeBetween_of_differ f high low hcon.1 hcon.2
    rw [hnone] at hn
    cases hn
  · rintro (h | h)
    · exact changeBetween_of_le f h
    · exact changeBetween_of_beq h

theorem differ_of_changeBetween {f : UInt64 → β} {high low n : UInt64}
    (h : changeBetween f high low = some n) : low < high ∧ ¬ f low == f high := by
  have hsome : ¬ (high ≤ low ∨ f low == f high) := by
    rw [← changeBetween_eq_none_iff, h]
    exact Option.some_ne_none n
  rwa [not_or, UInt64.not_le] at hsome

/-- What is found is a change in the range, to the observation at its upper end. -/
theorem changeBetween_spec {f : UInt64 → β} {high low n : UInt64}
    (h : changeBetween f high low = some n) :
    low < n ∧ n ≤ high ∧ ChangesAt f n ∧ f n == f high := by
  obtain ⟨hlt, hne⟩ := differ_of_changeBetween h
  obtain ⟨k, hk, hspec⟩ := changeBetween_of_differ f high low hlt hne
  rw [h] at hk
  cases hk
  exact hspec

/-- Without a change on the way the ends of a range agree. -/
theorem beq_of_unchanged (f : UInt64 → β) {low high : UInt64} (h : low ≤ high)
    (hun : ∀ k, low < k → k ≤ high → ¬ ChangesAt f k) : f low == f high := by
  obtain ⟨d, hd⟩ := Nat.exists_eq_add_of_le (UInt64.le_iff_toNat_le.mp h)
  induction d generalizing high with
  | zero =>
    rw [UInt64.toNat.inj (by omega : low.toNat = high.toNat)]
    exact BEq.rfl
  | succ d ih =>
    have hone : (1 : UInt64) ≤ high := by
      rw [UInt64.le_iff_toNat_le, UInt64.toNat_one]; omega
    have hprev : (high - 1).toNat = low.toNat + d := by
      rw [UInt64.toNat_sub_of_le _ _ hone, UInt64.toNat_one]; omega
    have hle : high - 1 ≤ high := UInt64.le_iff_toNat_le.mpr (by omega)
    have hlast : f high == f (high - 1) := by
      simpa [ChangesAt] using hun high (UInt64.lt_iff_toNat_lt.mpr (by omega)) (UInt64.le_refl _)
    have hbefore : f low == f (high - 1) :=
      ih (UInt64.le_iff_toNat_le.mpr (by omega)) (fun k h1 h2 => hun k h1 (UInt64.le_trans h2 hle))
        hprev
    exact BEq.trans hbefore (BEq.symm hlast)

/-- A range whose only change is at `n` has ends that differ. -/
theorem differ_of_changesAtMostOnce {f : UInt64 → β} {low high n : UInt64}
    (honce : ChangesAtMostOnce f low high) (hln : low < n) (hnh : n ≤ high)
    (hc : ChangesAt f n) : ¬ f low == f high := by
  have hone : (1 : UInt64) ≤ n := by
    rw [UInt64.lt_iff_toNat_lt] at hln
    rw [UInt64.le_iff_toNat_le, UInt64.toNat_one]; omega
  have hprev : (n - 1).toNat = n.toNat - 1 := by
    rw [UInt64.toNat_sub_of_le _ _ hone, UInt64.toNat_one]
  have hnn : n - 1 < n := by
    rw [UInt64.lt_iff_toNat_lt] at *; omega
  have hbelow : low ≤ n - 1 := by
    rw [UInt64.lt_iff_toNat_lt] at hln
    rw [UInt64.le_iff_toNat_le]; omega
  have hfirst : f low == f (n - 1) := beq_of_unchanged f hbelow fun k h1 h2 hk => by
    have hkn : k < n := UInt64.lt_of_le_of_lt h2 hnn
    have := honce k n h1 (UInt64.le_trans (UInt64.le_of_lt hkn) hnh) hln hnh hk hc
    exact UInt64.ne_of_lt hkn this
  have hlast : f n == f high := beq_of_unchanged f hnh fun k h1 h2 hk => by
    have := honce n k hln hnh (UInt64.lt_trans hln h1) h2 hc hk
    exact UInt64.ne_of_lt h1 this
  intro he
  exact hc (BEq.trans hlast (BEq.trans (BEq.symm he) hfirst))

/-- Where a range has at most one change, the search finds exactly that. -/
theorem changeBetween_eq_some_iff {f : UInt64 → β} {high low : UInt64}
    (honce : ChangesAtMostOnce f low high) (n : UInt64) :
    changeBetween f high low = some n ↔ low < n ∧ n ≤ high ∧ ChangesAt f n := by
  constructor
  · intro h
    obtain ⟨h1, h2, h3, -⟩ := changeBetween_spec h
    exact ⟨h1, h2, h3⟩
  · rintro ⟨hln, hnh, hc⟩
    have hlh : low < high := UInt64.lt_of_lt_of_le hln hnh
    obtain ⟨k, hk, hlk, hkh, hck, -⟩ := changeBetween_of_differ f high low hlh
      (differ_of_changesAtMostOnce honce hln hnh hc)
    rw [hk, honce k n hlk hkh hln hnh hck hc]

end Equivalence

/-! ## Words of 64 bits -/

theorem addWithin_eq {a b : UInt64} (h : a.toNat + b.toNat < 2 ^ 64) :
    addWithin a b = some (a + b) := if_pos h

theorem subWithin_eq {a b : UInt64} (h : b ≤ a) : subWithin a b = some (a - b) :=
  if_pos (UInt64.le_iff_toNat_le.mp h)

/-- One step of the checked search. -/
theorem findChangeChecked_step (f : UInt64 → β) (high low : UInt64) :
    findChangeChecked f high low =
      if f low == f high ∨ high ≤ low then some none
      else (addWithin low 1).bind fun next =>
        if high = next then some (some high)
        else (subWithin high low).bind fun width =>
          (addWithin low (width / 2)).bind fun mid =>
            (findChangeChecked f high mid).bind fun upper =>
              (findChangeChecked f mid low).map fun lower => upper.or lower := by
  rw [findChangeChecked]
  split_ifs with h
  · rfl
  · split
    · rename_i hn; rw [hn]; rfl
    · rename_i next hn
      rw [hn, Option.bind_some]
      split_ifs with h1
      · rfl
      · split
        · rename_i hw; rw [hw]; rfl
        · rename_i width hw
          rw [hw, Option.bind_some]
          split
          · rename_i hm; rw [hm]; rfl
          · rename_i mid hm
            rw [hm, Option.bind_some]
            cases findChangeChecked f high mid <;> cases findChangeChecked f mid low <;> rfl

/-- No sum or difference leaves the words, and the search ends with the same answer. -/
theorem findChangeChecked_eq (f : UInt64 → β) (high low : UInt64) :
    findChangeChecked f high low = some (changeBetween f high low) := by
  induction high, low using findChange.induct with
  | case1 high low ihUpper ihLower =>
    rw [findChangeChecked_step, changeBetween_eq]
    by_cases h : low < high
    · have hlt : low.toNat < high.toNat := UInt64.lt_iff_toNat_lt.mp h
      have hh := high.toNat_lt
      have hnext : addWithin low 1 = some (low + 1) :=
        addWithin_eq (by rw [UInt64.toNat_one]; omega)
      have hwidth : subWithin high low = some (high - low) := subWithin_eq (UInt64.le_of_lt h)
      have hmid : addWithin low ((high - low) / 2) = some (middle low high) := by
        refine addWithin_eq ?_
        rw [UInt64.toNat_div, toNat_width h]
        simp only [UInt64.reduceToNat]
        omega
      rw [if_pos h, hnext, hwidth, Option.bind_some, Option.bind_some, hmid, Option.bind_some]
      by_cases he : f low == f high
      · rw [if_pos (Or.inl he), if_pos he]
      · rw [if_neg (not_or.mpr ⟨he, UInt64.not_le.mpr h⟩), if_neg he]
        by_cases h1 : high = low + 1
        · rw [if_pos h1, if_pos h1]
        · rw [if_neg h1, if_neg h1, middle, ihUpper h h1, ihLower h h1]
          rfl
    · rw [if_pos (Or.inr (UInt64.not_lt.mp h)), if_neg h]

/-! ## The search in a monad -/

/-- For an observation that never fails and is compared by an equivalence, at any two heights: the
    search gives an answer without leaving the words of 64 bits on the way. It is none exactly if
    the range is empty or its ends agree, and else a height in the range that differs from the one
    before. A range with at most one change has it as its answer. -/
theorem findChange_spec {m : Type → Type} [Monad m] [LawfulMonad m] [EquivBEq β]
    (f : UInt64 → β) (high low : UInt64) :
    ∃ found : Option UInt64,
      findChange (fun k => (pure (f k) : m β)) high low = pure found ∧
      findChangeChecked f high low = some found ∧
      (found = none ↔ high ≤ low ∨ f low == f high) ∧
      (∀ n, found = some n → low < n ∧ n ≤ high ∧ ChangesAt f n) ∧
      (ChangesAtMostOnce f low high →
        ∀ n, found = some n ↔ low < n ∧ n ≤ high ∧ ChangesAt f n) := by
  refine ⟨changeBetween f high low, findChange_pure f high low, findChangeChecked_eq f high low,
    changeBetween_eq_none_iff f high low, ?_, changeBetween_eq_some_iff⟩
  intro n h
  obtain ⟨h1, h2, h3, -⟩ := changeBetween_spec h
  exact ⟨h1, h2, h3⟩

/-- A threshold is found between the two ends of all heights. -/
theorem findChange_threshold :
    findChange (fun k => (pure (decide (1000 < k)) : Except String Bool)) 18446744073709551615 0 =
      .ok (some 1001) := by
  obtain ⟨found, hrun, -, -, -, honly⟩ := findChange_spec (m := Except String)
    (fun k => decide (1000 < k)) 18446744073709551615 0
  have hchange : ∀ k : UInt64, 0 < k → ChangesAt (fun k => decide (1000 < k)) k → k = 1001 := by
    intro k hk hc
    have hk' : 0 < k.toNat := UInt64.lt_iff_toNat_lt.mp hk
    have hprev : (k - 1).toNat = k.toNat - 1 := by
      rw [UInt64.toNat_sub_of_le _ _ (UInt64.le_iff_toNat_le.mpr (by rw [UInt64.toNat_one]; omega)),
        UInt64.toNat_one]
    apply UInt64.toNat.inj
    simp only [ChangesAt, UInt64.lt_iff_toNat_lt, hprev, UInt64.reduceToNat, beq_iff_eq,
      decide_eq_decide] at hc ⊢
    omega
  have honce : ChangesAtMostOnce (fun k => decide (1000 < k)) 0 18446744073709551615 := by
    intro j k hj _ hk _ hcj hck
    rw [hchange j hj hcj, hchange k hk hck]
  have hfound : found = some 1001 := (honly honce 1001).mpr (by decide)
  rw [hrun, hfound]
  rfl

end ContractLens
