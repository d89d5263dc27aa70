import ContractLens.Proofs.Except
import ContractLens.Proofs.Search.Halving
import Mathlib.Data.Nat.Log

/-!
# The heights that a search observes

A search observes the lower end of its range and then the upper end. If these differ and there are
heights between them, it searches the whole upper half and then the lower half. An observation that
fails ends it.

Main results:

* `findChange_eq_mapM`: a search observes at the heights `probes`, one after the other, and then
  gives the answer of the search without effects.
* `findChange_failing`: a search whose observation may fail stops at the first failure, and has an
  answer only if there is none.
* `length_probes_le`: a search between two values observes at most four heights for each halving.
* `findChange_twoValues`: the heights of a search between two values.
-/

namespace ContractLens

/-! ## Observations that may fail -/

section Observations

variable {α β ε : Type} {f : UInt64 → Except ε β} {g : UInt64 → β} {k : UInt64} {b : β} {e : ε}

/-- `g` says what `f` says wherever `f` does not fail. -/
def Extends (g : UInt64 → β) (f : UInt64 → Except ε β) : Prop :=
  ∀ k b, f k = .ok b → g k = b

theorem exists_extends (f : UInt64 → Except ε β) (b : β) : ∃ g, Extends g f := by
  refine ⟨fun k => match f k with | .ok c => c | .error _ => b, fun k c hk => ?_⟩
  simp only [hk]

theorem Extends.map_observe (hg : Extends g f) (k : UInt64) : (fun _ => g k) <$> f k = f k := by
  cases hk : f k with
  | error e => rfl
  | ok b => rw [hg k b hk]; rfl

/-- An observation that is written down with its height, whether it fails or not. -/
def noted (f : UInt64 → Except ε β) (k : UInt64) : ExceptT ε (StateM (List UInt64)) β := do
  modify (· ++ [k])
  f k

theorem Extends.map_noted (hg : Extends g f) (k : UInt64) :
    (fun _ => g k) <$> noted f k = noted f k := by
  rw [noted, map_bind]
  conv_rhs => rw [← hg.map_observe k]
  cases f k <;> rfl

theorem run_noted_bind_of_ok (h : f k = .ok b) (next : β → ExceptT ε (StateM (List UInt64)) α)
    (seen : List UInt64) :
    (noted f k >>= next).run.run seen = (next b).run.run (seen ++ [k]) := by
  have hrun : (noted f k).run.run seen = (.ok b, seen ++ [k]) := by rw [← h]; rfl
  rw [ExceptT.run_bind, StateT.run_bind, hrun]
  rfl

theorem run_noted_bind_of_error (h : f k = .error e)
    (next : β → ExceptT ε (StateM (List UInt64)) α) (seen : List UInt64) :
    (noted f k >>= next).run.run seen = (.error e, seen ++ [k]) := by
  have hrun : (noted f k).run.run seen = (.error e, seen ++ [k]) := by rw [← h]; rfl
  rw [ExceptT.run_bind, StateT.run_bind, hrun]
  rfl

/-- Observations that do not fail are all written down. -/
theorem run_mapM_noted_bind_of_ok {ks : List UInt64} (h : ∀ k ∈ ks, f k = .ok (g k))
    (next : List β → ExceptT ε (StateM (List UInt64)) α) (seen : List UInt64) :
    (ks.mapM (noted f) >>= next).run.run seen = (next (ks.map g)).run.run (seen ++ ks) := by
  induction ks generalizing next seen with
  | nil => simp
  | cons k ks ih =>
    obtain ⟨hk, hks⟩ := List.forall_mem_cons.mp h
    rw [List.mapM_cons, bind_assoc, run_noted_bind_of_ok hk, bind_assoc, ih hks]
    simp

/-- Observations are written down up to the first that fails. -/
theorem run_mapM_noted_bind_of_error {before after : List UInt64}
    (h : ∀ j ∈ before, f j = .ok (g j)) (he : f k = .error e)
    (next : List β → ExceptT ε (StateM (List UInt64)) α) (seen : List UInt64) :
    ((before ++ k :: after).mapM (noted f) >>= next).run.run seen =
      (.error e, seen ++ (before ++ [k])) := by
  rw [List.mapM_append, bind_assoc, run_mapM_noted_bind_of_ok h, bind_assoc, List.mapM_cons,
    bind_assoc, run_noted_bind_of_error he, List.append_assoc]

end Observations

/-! ## The order of the observations -/

variable {β : Type} [BEq β]

/-- The heights at which a search observes, in order, if no observation fails: the lower end, the
    upper end and, if these differ and there are heights between them, those of the search in the
    upper half and then those of the search in the lower half. -/
def probes (f : UInt64 → β) (high low : UInt64) : List UInt64 :=
  low :: high ::
    if _h : low < high then
      if f low == f high then []
      else if _h1 : high = low + 1 then []
      else probes f high (middle low high) ++ probes f (middle low high) low
    else []
termination_by (high - low).toNat
decreasing_by
  · exact (mid_bounds _h _h1).1
  · exact (mid_bounds _h _h1).2

theorem probes_of_beq {f : UInt64 → β} {high low : UInt64} (h : f low == f high) :
    probes f high low = [low, high] := by
  rw [probes]
  split_ifs <;> rfl

/-- A search observes at its heights, one after the other, and then answers. All it needs is that
    the observation at `k` can give nothing but `g k`. -/
theorem findChange_eq_mapM {m : Type → Type} [Monad m] [LawfulMonad m] {observe : UInt64 → m β}
    {g : UInt64 → β} (hg : ∀ k, (fun _ => g k) <$> observe k = observe k) (high low : UInt64) :
    findChange observe high low =
      (probes g high low).mapM observe >>= fun _ => pure (changeBetween g high low) := by
  have hbind : ∀ (k : UInt64) {α : Type} (next : β → m α),
      observe k >>= next = observe k >>= fun _ => next (g k) := by
    intro k α next
    conv_lhs => rw [← hg k, bind_map_left]
  induction high, low using findChange.induct with
  | case1 high low ihUpper ihLower =>
    rw [findChange, probes, changeBetween_eq, hbind low, List.mapM_cons, bind_assoc]
    congr 1; funext _
    rw [hbind high, List.mapM_cons, bind_assoc, bind_assoc]
    congr 1; funext _
    split_ifs with h he h1
    · simp
    · simp
    · simp only [ihUpper h h1, ihLower h h1, List.mapM_append, bind_assoc, pure_bind, middle]
    · simp

/-- Observations that agree at the heights of a search lead to the same heights and answer. -/
theorem probes_congr {f g : UInt64 → β} {high low : UInt64}
    (h : ∀ k ∈ probes f high low, g k = f k) :
    probes g high low = probes f high low ∧
      changeBetween g high low = changeBetween f high low := by
  induction high, low using findChange.induct with
  | case1 high low ihUpper ihLower =>
    unfold probes at h ⊢
    rw [List.forall_mem_cons, List.forall_mem_cons] at h
    obtain ⟨hlow, hhigh, hrest⟩ := h
    rw [changeBetween_eq, changeBetween_eq f, hlow, hhigh]
    split_ifs at hrest ⊢ with hlt he h1
    · exact ⟨rfl, rfl⟩
    · exact ⟨rfl, rfl⟩
    · simp only [middle] at hrest ⊢
      obtain ⟨hupper, hlower⟩ := List.forall_mem_append.mp hrest
      obtain ⟨hp, hc⟩ := ihUpper hlt h1 hupper
      obtain ⟨hp', hc'⟩ := ihLower hlt h1 hlower
      rw [hp, hp', hc, hc']
      exact ⟨rfl, rfl⟩
    · exact ⟨rfl, rfl⟩

/-! ## Searches that may fail -/

section Failures

variable {ε : Type} {f : UInt64 → Except ε β} {g : UInt64 → β} {high low : UInt64}

/-- The outcome of a search and the heights at which it observed, in order. -/
def watched (f : UInt64 → Except ε β) (high low : UInt64) :
    Except ε (Option UInt64) × List UInt64 :=
  (findChange (noted f) high low).run.run []

/-- A search whose observation may fail has the answer of a search that goes on after a failure,
    unless it comes to one; then it has the error of the first one and stops there. -/
theorem watched_spec (hg : Extends g f) (high low : UInt64) :
    ((∀ k ∈ probes g high low, ∃ b, f k = .ok b) ∧
        findChange f high low = .ok (changeBetween g high low) ∧
        watched f high low = (.ok (changeBetween g high low), probes g high low)) ∨
      ∃ before k after e, probes g high low = before ++ k :: after ∧
        (∀ j ∈ before, ∃ b, f j = .ok b) ∧ f k = .error e ∧
        findChange f high low = .error e ∧ watched f high low = (.error e, before ++ [k]) := by
  have hok : ∀ {ks : List UInt64}, (∀ k ∈ ks, ∃ b, f k = .ok b) → ∀ k ∈ ks, f k = .ok (g k) := by
    intro ks h k hk
    obtain ⟨b, hb⟩ := h k hk
    rw [hb, hg k b hb]
  rw [watched, findChange_eq_mapM hg.map_observe, findChange_eq_mapM hg.map_noted]
  rcases forall_ok_or_exists_error f (probes g high low) with
    hall | ⟨before, k, after, e, hsplit, hbefore, he⟩
  · refine Or.inl ⟨hall, ?_, run_mapM_noted_bind_of_ok (hok hall) _ []⟩
    rw [mapM_eq_ok_map (hok hall)]
    rfl
  · refine Or.inr ⟨before, k, after, e, hsplit, hbefore, he, ?_, ?_⟩
    · rw [hsplit, List.mapM_append, mapM_eq_ok_map (hok hbefore), ok_bind, List.mapM_cons, he]
      rfl
    · rw [hsplit, run_mapM_noted_bind_of_error (hok hbefore) he]
      rfl

/-- The heights at which a search observes are the first ones of a search that goes on after a
    failure. -/
theorem isPrefix_probes (hg : Extends g f) (high low : UInt64) :
    (watched f high low).2 <+: probes g high low := by
  rcases watched_spec hg high low with
    ⟨-, -, hwatched⟩ | ⟨before, k, after, e, hsplit, -, -, -, hwatched⟩
  · rw [hwatched]
  · rw [hwatched, hsplit]
    exact ⟨after, by simp⟩

/-- An observation that fails at the lower end ends the search at once. -/
theorem watched_of_error {e : ε} (h : f low = .error e) (high : UInt64) :
    findChange f high low = .error e ∧ watched f high low = (.error e, [low]) := by
  constructor
  · rw [findChange, h]
    rfl
  · rw [watched, findChange, run_noted_bind_of_error h]
    rfl

/-- For an observation that may fail, at any two heights. A search with an answer observed at no
    height that fails, and it is the search of every observation without failures that agrees at its
    heights. A search with an error has that of the last of its heights, which is the first that
    fails: up to there its heights are those of a search that goes on, which observes at the lower
    end, at the upper end, in the whole upper half and then in the lower half. -/
theorem findChange_failing (f : UInt64 → Except ε β) (high low : UInt64) :
    ∃ asked : List UInt64,
      watched f high low = (findChange f high low, asked) ∧
      (∀ found, findChange f high low = .ok found →
        (∀ k ∈ asked, ∃ b, f k = .ok b) ∧
        ∀ g : UInt64 → β, (∀ k ∈ asked, f k = .ok (g k)) →
          asked = probes g high low ∧
            findChange (fun k => (.ok (g k) : Except ε β)) high low = .ok found) ∧
      (∀ e, findChange f high low = .error e →
        ∃ before k, asked = before ++ [k] ∧ (∀ j ∈ before, ∃ b, f j = .ok b) ∧ f k = .error e ∧
          ∀ g : UInt64 → β, (∀ j b, f j = .ok b → g j = b) → asked <+: probes g high low) := by
  cases hlow : f low with
  | error e =>
    obtain ⟨hfind, hwatched⟩ := watched_of_error hlow high
    refine ⟨[low], by rw [hwatched, hfind], by simp [hfind], fun e' he' => ?_⟩
    obtain rfl : e = e' := by simpa [hfind] using he'
    refine ⟨[], low, rfl, List.forall_mem_nil _, hlow, fun g hg => ?_⟩
    simpa [hwatched] using isPrefix_probes (f := f) hg high low
  | ok b =>
    obtain ⟨g, hg⟩ := exists_extends f b
    rcases watched_spec hg high low with
      ⟨hall, hfind, hwatched⟩ | ⟨before, k, after, e, -, hbefore, he, hfind, hwatched⟩
    · refine ⟨probes g high low, by rw [hwatched, hfind], fun found hfound => ⟨hall, ?_⟩,
        by simp [hfind]⟩
      intro g' hg'
      have hagree : ∀ k ∈ probes g high low, g' k = g k := fun k hk => (hg k _ (hg' k hk)).symm
      obtain ⟨hprobes, hanswer⟩ := probes_congr hagree
      obtain rfl : changeBetween g high low = found := by simpa [hfind] using hfound
      exact ⟨hprobes.symm, by rw [← hanswer]; exact findChange_pure (m := Except ε) g' high low⟩
    · refine ⟨before ++ [k], by rw [hwatched, hfind], by simp [hfind], fun e' he' => ?_⟩
      obtain rfl : e = e' := by simpa [hfind] using he'
      refine ⟨before, k, rfl, hbefore, he, fun g' hg' => ?_⟩
      simpa [hwatched] using isPrefix_probes (f := f) hg' high low

/-- A threshold with a height at which the observation fails. -/
def brokenThreshold (k : UInt64) : Except String Bool :=
  if k = 1500 then .error "boom" else .ok (decide (1000 < k))

/-- The search for the threshold stops at the height that fails. -/
theorem findChange_brokenThreshold :
    findChange brokenThreshold 2000 0 = .error "boom" ∧
      ∃ before, watched brokenThreshold 2000 0 = (.error "boom", before ++ [1500]) := by
  have hrun : findChange brokenThreshold 2000 0 = .error "boom" := by cbv
  obtain ⟨asked, hwatched, -, herror⟩ := findChange_failing brokenThreshold 2000 0
  obtain ⟨before, k, rfl, -, hk, -⟩ := herror "boom" hrun
  have hk : k = 1500 := by
    by_contra hne
    simp [brokenThreshold, hne] at hk
  exact ⟨hrun, before, by rw [hwatched, hrun, hk]⟩

end Failures

/-! ## How many observations -/

section Counts

variable {f : UInt64 → β} {low high : UInt64}

/-- Of any three heights in the range two have observations that agree: there are at most two
    values. -/
def AtMostTwoValues (f : UInt64 → β) (low high : UInt64) : Prop :=
  ∀ i j k, low ≤ i → i ≤ high → low ≤ j → j ≤ high → low ≤ k → k ≤ high →
    f i == f j ∨ f j == f k ∨ f i == f k

/-- Every observation in the range agrees with one of two values. -/
theorem atMostTwoValues_iff [EquivBEq β] :
    AtMostTwoValues f low high ↔
      ∃ a b : β, ∀ k, low ≤ k → k ≤ high → f k == a ∨ f k == b := by
  constructor
  · intro h
    by_cases hall : ∀ k, low ≤ k → k ≤ high → f k == f low
    · exact ⟨f low, f low, fun k hk hk' => Or.inl (hall k hk hk')⟩
    · push Not at hall
      obtain ⟨m, hm, hm', hne⟩ := hall
      refine ⟨f low, f m, fun k hk hk' => ?_⟩
      rcases h k low m hk hk' (UInt64.le_refl _) (UInt64.le_trans hm hm') hm hm' with
        hkl | hlm | hkm
      · exact Or.inl hkl
      · exact absurd (BEq.symm hlm) hne
      · exact Or.inr hkm
  · rintro ⟨a, b, h⟩ i j k hi hi' hj hj' hk hk'
    have hsame {c : β} {i j : UInt64} (h : f i == c) (h' : f j == c) : f i == f j :=
      BEq.trans h (BEq.symm h')
    -- two of the three agree with the same value
    rcases h i hi hi' with hi | hi <;> rcases h j hj hj' with hj | hj
    · exact Or.inl (hsame hi hj)
    · rcases h k hk hk' with hk | hk
      · exact Or.inr (Or.inr (hsame hi hk))
      · exact Or.inr (Or.inl (hsame hj hk))
    · rcases h k hk hk' with hk | hk
      · exact Or.inr (Or.inl (hsame hj hk))
      · exact Or.inr (Or.inr (hsame hi hk))
    · exact Or.inl (hsame hi hj)

theorem AtMostTwoValues.mono (h : AtMostTwoValues f low high) {low' high' : UInt64}
    (hl : low ≤ low') (hh : high' ≤ high) : AtMostTwoValues f low' high' :=
  fun i j k hi hi' hj hj' hk hk' =>
    h i j k (UInt64.le_trans hl hi) (UInt64.le_trans hi' hh) (UInt64.le_trans hl hj)
      (UInt64.le_trans hj' hh) (UInt64.le_trans hl hk) (UInt64.le_trans hk' hh)

/-- A search observes in its range only. -/
theorem mem_probes (hle : low ≤ high) {k : UInt64} (hk : k ∈ probes f high low) :
    low ≤ k ∧ k ≤ high := by
  induction high, low using findChange.induct with
  | case1 high low ihUpper ihLower =>
    rw [probes, List.mem_cons, List.mem_cons] at hk
    rcases hk with rfl | rfl | hk
    · exact ⟨UInt64.le_refl _, hle⟩
    · exact ⟨hle, UInt64.le_refl _⟩
    · split_ifs at hk with h he h1
      · cases hk
      · cases hk
      · obtain ⟨hlm, hmh⟩ := middle_between h h1
        rcases List.mem_append.mp hk with hk | hk
        · obtain ⟨hmk, hkh⟩ := ihUpper h h1 (UInt64.le_of_lt hmh) hk
          exact ⟨UInt64.le_trans (UInt64.le_of_lt hlm) hmk, hkh⟩
        · obtain ⟨hlk, hkm⟩ := ihLower h h1 (UInt64.le_of_lt hlm) hk
          exact ⟨hlk, UInt64.le_trans hkm (UInt64.le_of_lt hmh)⟩
      · cases hk

/-- Half of a range, rounded up, takes one halving less. -/
theorem clog_half {n k : ℕ} (hn : 2 ≤ n) (hk : k ≤ (n + 1) / 2) :
    Nat.clog 2 k + 1 ≤ Nat.clog 2 n := by
  rw [Nat.clog_of_two_le (by norm_num) hn]
  exact Nat.add_le_add_right (Nat.clog_mono_right 2 hk) 1

/-- A search between two values observes at most four heights for each halving. Of two halves, one
    has ends that agree, and the search in that one ends after two observations. -/
theorem length_probes_le (h : low < high) (htwo : AtMostTwoValues f low high) :
    (probes f high low).length ≤ 4 * Nat.clog 2 (high - low).toNat + 2 := by
  induction high, low using findChange.induct with
  | case1 high low ihUpper ihLower =>
    rw [probes, List.length_cons, List.length_cons, dif_pos h]
    split_ifs with he h1
    · simp
    · simp
    · obtain ⟨hlm, hmh⟩ := middle_between h h1
      have hle := UInt64.le_of_lt h
      have hlm' := UInt64.le_of_lt hlm
      have hmh' := UInt64.le_of_lt hmh
      have hwide : 2 ≤ (high - low).toNat := by
        rw [UInt64.lt_iff_toNat_lt] at hlm hmh
        rw [toNat_width h]; omega
      -- both halves have at most half of the steps, rounded up
      have hupper := clog_half (k := (high - middle low high).toNat) hwide (by
        rw [toNat_width h, toNat_width hmh, toNat_middle h]; omega)
      have hlower := clog_half (k := (middle low high - low).toNat) hwide (by
        rw [toNat_width h, toNat_width hlm, toNat_middle h]; omega)
      rw [List.length_append]
      rcases htwo low (middle low high) high (UInt64.le_refl _) hle hlm' hmh' hle
        (UInt64.le_refl _) with hlow | hhigh | hends
      · have hrest : (probes f high (middle low high)).length ≤
            4 * Nat.clog 2 (high - middle low high).toNat + 2 :=
          ihUpper h h1 hmh (htwo.mono hlm' (UInt64.le_refl _))
        simp only [probes_of_beq hlow, List.length_cons, List.length_nil]
        omega
      · have hrest : (probes f (middle low high) low).length ≤
            4 * Nat.clog 2 (middle low high - low).toNat + 2 :=
          ihLower h h1 hlm (htwo.mono (UInt64.le_refl _) hmh')
        simp only [probes_of_beq hhigh, List.length_cons, List.length_nil]
        omega
      · exact absurd hends he

/-- A search that never fails, between two heights with at most two values: it observes at most four
    heights for each halving of the range and two more, none of them out of the range, and only the
    two ends if these agree. -/
theorem findChange_twoValues (ε : Type) (h : low < high) (htwo : AtMostTwoValues f low high) :
    ∃ found asked,
      watched (fun k => (.ok (f k) : Except ε β)) high low = (.ok found, asked) ∧
      asked.length ≤ 4 * Nat.clog 2 (high - low).toNat + 2 ∧
      (∀ k ∈ asked, low ≤ k ∧ k ≤ high) ∧ (f low == f high → asked = [low, high]) := by
  have hext : Extends f (fun k => (.ok (f k) : Except ε β)) := fun k b hb => by simpa using hb
  have hwatched : watched (fun k => (.ok (f k) : Except ε β)) high low =
      (.ok (changeBetween f high low), probes f high low) := by
    rcases watched_spec hext high low with ⟨-, -, hw⟩ | ⟨before, k, after, e, -, -, he, -⟩
    · exact hw
    · cases he
  exact ⟨changeBetween f high low, probes f high low, hwatched, length_probes_le h htwo,
    fun k hk => mem_probes (UInt64.le_of_lt h) hk, probes_of_beq⟩

/-- Heights that are odd and even by turns, from the first height to the last. -/
theorem findChange_parity :
    ∃ found asked,
      watched (fun k => (.ok (decide (k % 2 = 1)) : Except String Bool)) 18446744073709551615 0 =
        (.ok found, asked) ∧ asked.length ≤ 258 := by
  have htwo : AtMostTwoValues (fun k : UInt64 => decide (k % 2 = 1)) 0 18446744073709551615 :=
    atMostTwoValues_iff.mpr ⟨true, false, fun k _ _ => by cases decide (k % 2 = 1) <;> simp⟩
  obtain ⟨found, asked, hwatched, hlength, -, -⟩ :=
    findChange_twoValues String (by decide) htwo
  have hclog : Nat.clog 2 (18446744073709551615 - 0 : UInt64).toNat ≤ 64 :=
    Nat.clog_le_of_le_pow (by decide)
  exact ⟨found, asked, hwatched, by omega⟩

end Counts

end ContractLens
