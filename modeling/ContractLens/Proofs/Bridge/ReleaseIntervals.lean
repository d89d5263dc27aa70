import ContractLens.Proofs.Bridge.Releases
import ContractLens.Proofs.Json.Record
import ContractLens.Proofs.Text.Natural

/-!
# The intervals of releases

The releases of a network divide all heights into intervals, from the activation height of a release
up to the one before that of the next release. However a release is asked for, it is the one in
whose interval the height lies.

* `Release.IsCurrent`: the release of an interval.
* `Release.isCurrent_iff_isActive`: it is the active release of the height.
* `Release.IsActive.isResolved`: it is given by a number, by a text, as JSON and by a decoder.
* `Release.resolve_intervals`: each height has one such release, a greater height no earlier one,
  and the last release stands for the greatest height and for none.
-/

namespace ContractLens.Bridge

/-! ## Heights as text and as JSON -/

namespace ReleaseHeight

/-- The height as JSON: a number, or `latest` as a string. -/
def toJson : ReleaseHeight → Json
  | latest => .str "latest"
  | number n => .ofWord n

theorem toList_decimal (n : UInt64) : (Natural.decimal n).toList = Nat.toDigits 10 n.toNat := by
  rw [Natural.decimal, Nat.toString_eq_repr, Nat.toList_repr]

theorem decimal_ne_latest (n : UInt64) : Natural.decimal n ≠ "latest" := by
  intro h
  have hletter : 'l' ∈ Nat.toDigits 10 n.toNat := by
    rw [← toList_decimal, h]
    decide
  exact absurd (Natural.isDigit_of_mem hletter) (by decide)

/-- A height is read from its text. -/
theorem ofText_text (height : ReleaseHeight) : ofText height.text = .ok height := by
  cases height with
  | latest => rfl
  | number n =>
    have hword : Natural.decimalWord64? (Natural.decimal n) = some n := by
      rw [Natural.decimalWord64?, toList_decimal]
      exact Natural.word64?_toDigits (by decide) (by decide) n
    rw [text, ofText, if_neg (decimal_ne_latest n), hword]

/-- A height is read from its JSON. -/
theorem ofJson_toJson (height : ReleaseHeight) : ofJson height.toJson = .ok height := by
  cases height with
  | latest => rfl
  | number n =>
    rw [toJson, ofJson, Json.word?_ofWord]
    exact nofun

end ReleaseHeight

namespace Release

/-! ## Intervals -/

/-- The height lies in the interval of the release: it is reached, and the release is the last one
    of the table or the next one is not reached. -/
def IsCurrent (table : List Release) (n : UInt64) (r : Release) : Prop :=
  ∃ before after, table = before ++ r :: after ∧ r.height ≤ n ∧
    (after = [] ∨ ∃ next rest, after = next :: rest ∧ n < next.height)

variable {network : Network} {table : List Release} {height : Option UInt64} {m n : UInt64}
  {r s : Release}

/-- The interval of a release holds the heights at which it is active. -/
theorem isCurrent_iff_isActive (htable : tableOf network = .ok table) :
    r.IsCurrent table n ↔ r.IsActive network (some n) := by
  have hsorted := sorted_tableOf htable
  constructor
  · rintro ⟨before, after, rfl, hrn, hnext⟩
    obtain ⟨-, hafter, hbefore⟩ := List.pairwise_append.mp hsorted
    refine ⟨_, htable, by simp, fun _ h => Option.some.inj h ▸ hrn, fun s hs hreached => ?_⟩
    have hsn := hreached n rfl
    obtain hs | hs := List.mem_append.mp hs
    · exact UInt64.le_of_lt (hbefore s hs r List.mem_cons_self)
    · obtain rfl | hs := List.mem_cons.mp hs
      · exact UInt64.le_refl _
      · -- what comes behind the next release is even higher
        obtain rfl | ⟨next, rest, rfl, hlt⟩ := hnext
        · cases hs
        · have hle : next.height ≤ s.height := by
            obtain rfl | hs := List.mem_cons.mp hs
            · exact UInt64.le_refl _
            · have hrest := (List.pairwise_cons.mp hafter).2
              exact UInt64.le_of_lt ((List.pairwise_cons.mp hrest).1 s hs)
          exact absurd (UInt64.lt_of_lt_of_le hlt (UInt64.le_trans hle hsn)) (UInt64.lt_irrefl _)
  · intro hactive
    obtain ⟨before, after, rfl⟩ := List.append_of_mem (hactive.mem htable)
    obtain ⟨-, hafter, -⟩ := List.pairwise_append.mp hsorted
    obtain ⟨table, htable', -, hreached, hmax⟩ := hactive
    obtain rfl := Except.ok.inj (htable.symm.trans htable')
    refine ⟨before, after, rfl, hreached n rfl, ?_⟩
    cases after with
    | nil => exact Or.inl rfl
    | cons next rest =>
      refine Or.inr ⟨next, rest, rfl, UInt64.not_le.mp fun hle => ?_⟩
      have hlower := hmax next (by simp) fun _ h => Option.some.inj h ▸ hle
      have hhigher := (List.pairwise_cons.mp hafter).1 next List.mem_cons_self
      exact absurd (UInt64.lt_of_lt_of_le hhigher hlower) (UInt64.lt_irrefl _)

/-! ## Asking for a release -/

/-- The release is given for a height, or for none, however it is asked for. -/
structure IsResolved (network : Network) (height : Option UInt64) (r : Release) : Prop where
  /-- By the height itself. -/
  number : resolve (.ofOption height) network = .ok r
  /-- By the text of the height and a text for the network. -/
  text : ∀ spelling, Network.ofText? spelling = some network →
    resolveText (ReleaseHeight.ofOption height).text spelling = .ok r
  /-- By the height as JSON. -/
  json : (ReleaseHeight.ofJson (ReleaseHeight.ofOption height).toJson >>= (resolve · network)) =
    .ok r
  /-- By a decoder for the network. -/
  decoder : ∃ d events, (Decoder.ofNetwork network).value = .ok d ∧
    d.releaseFor height = .ok (r, events)

/-- The active release is given, however it is asked for. -/
theorem IsActive.isResolved (hactive : r.IsActive network height) :
    r.IsResolved network height := by
  obtain ⟨table, htable, -⟩ := id hactive
  have hnumber : resolve (.ofOption height) network = .ok r := by
    obtain ⟨s, hs, hactive'⟩ := resolve_isActive htable height
    rwa [hactive.unique hactive']
  refine ⟨hnumber, fun spelling hspelling => ?_, ?_, ?_⟩
  · simp only [resolveText, hspelling]
    rw [ReleaseHeight.ofText_text, ok_bind, hnumber]
  · rw [ReleaseHeight.ofJson_toJson, ok_bind, hnumber]
  · obtain ⟨d, hd⟩ : ∃ d, (Decoder.ofNetwork network).value = .ok d := by
      rw [Decoder.ofNetwork, htable]
      exact ⟨_, rfl⟩
    obtain ⟨s, t, hactive', -, hrelease⟩ := Decoder.releaseFor_isActive hd height
    rw [← hactive.unique hactive'] at hrelease
    exact ⟨d, _, hd, hrelease⟩

theorem IsActive.height_le (hr : r.IsActive network (some m)) (hs : s.IsActive network (some n))
    (hmn : m ≤ n) : r.height ≤ s.height := by
  obtain ⟨table, htable, hmem, hreached, -⟩ := hr
  obtain ⟨_, htable', -, -, hmax⟩ := hs
  obtain rfl := Except.ok.inj (htable.symm.trans htable')
  exact hmax r hmem fun _ h => Option.some.inj h ▸ UInt64.le_trans (hreached m rfl) hmn

/-- All releases are reached without a height and at the greatest one. -/
theorem isReached_none (r : Release) : r.IsReached none := by
  rintro _ ⟨⟩

theorem isReached_max (r : Release) : r.IsReached (some 18446744073709551615) := by
  rintro _ ⟨⟩
  exact UInt64.le_iff_toNat_le.mpr (Nat.le_of_lt_succ r.height.toNat_lt)

/-- The last release is active at the greatest height and without one. -/
theorem isActive_of_getLast? (htable : tableOf network = .ok table)
    (hlast : table.getLast? = some r) :
    r.IsActive network none ∧ r.IsActive network (some 18446744073709551615) := by
  have hnone : r.IsActive network none := by
    obtain ⟨s, hs, hactive⟩ := resolve_isActive htable none
    have hresolve : resolve (.ofOption none) network = .ok r := by
      rw [resolve, htable, ok_bind]
      simp only [ReleaseHeight.ofOption, hlast]
      rfl
    rwa [Except.ok.inj (hresolve.symm.trans hs)]
  refine ⟨hnone, ?_⟩
  obtain ⟨table, htable, hmem, -, hmax⟩ := hnone
  exact ⟨table, htable, hmem, isReached_max r, fun s hs _ => hmax s hs (isReached_none s)⟩

/-- Each height lies in the interval of exactly one release of a network with a table, and this is
    what is given for the height, however it is asked for. No greater height has an earlier release.
    The last release is given for the greatest height, and if no height is asked for. -/
theorem resolve_intervals {network : Network} (hnetwork : network ≠ .regtest) :
    ∃ table, tableOf network = .ok table ∧
      (∀ n, ∃ r : Release, (∀ s : Release, s.IsCurrent table n ↔ s = r) ∧
        r.IsResolved network (some n)) ∧
      (∀ m n r s, m ≤ n → resolve (.number m) network = .ok r →
        resolve (.number n) network = .ok s → r.height ≤ s.height) ∧
      ∃ last, table.getLast? = some last ∧ last.IsResolved network none ∧
        last.IsResolved network (some 18446744073709551615) := by
  obtain ⟨table, htable⟩ : ∃ table, tableOf network = .ok table := by
    cases network with
    | regtest => exact absurd rfl hnetwork
    | mainnet | testnet => exact ⟨_, rfl⟩
  have hactive (n : UInt64) := resolve_isActive htable (some n)
  refine ⟨table, htable, fun n => ?_, fun m n r s hmn hr hs => ?_, ?_⟩
  · obtain ⟨r, -, hr⟩ := hactive n
    refine ⟨r, fun s => ?_, hr.isResolved⟩
    rw [isCurrent_iff_isActive htable]
    exact ⟨fun hs => hs.unique hr, fun h => h ▸ hr⟩
  · obtain ⟨r', hr', hractive⟩ := hactive m
    obtain ⟨s', hs', hsactive⟩ := hactive n
    obtain rfl := Except.ok.inj (hr'.symm.trans hr)
    obtain rfl := Except.ok.inj (hs'.symm.trans hs)
    exact hractive.height_le hsactive hmn
  · obtain ⟨-, -, last, hlast⟩ := exists_mem_tableOf htable
    obtain ⟨hnone, hmax⟩ := isActive_of_getLast? htable hlast
    exact ⟨last, hlast, hnone.isResolved, hmax.isResolved⟩

/-- The last height of the first release of the main network. -/
theorem resolveText_orchid :
    resolveText "1590999" "MainNet" = .ok ⟨"orchid", 0, orchid⟩ := by
  have hnetwork : Network.mainnet ≠ .regtest := by decide
  obtain ⟨table, htable, hintervals, -⟩ := resolve_intervals hnetwork
  cases htable
  obtain ⟨r, hr, hresolved⟩ := hintervals 1590999
  have horchid : (⟨"orchid", 0, orchid⟩ : Release) = r :=
    (hr _).mp ⟨[], _, rfl, by decide, Or.inr ⟨_, _, rfl, by decide⟩⟩
  rw [horchid]
  exact hresolved.text "MainNet" (by decide)

end Release

end ContractLens.Bridge
