import ContractLens.Proofs.Except
import ContractLens.Proofs.LogAddresses

/-!
# The release for a log

Which release's events a log is decoded by. The releases before `iris` have no events at all, and
all from `iris` on have those of `iris`.

* `Release.IsActive.unique`, `Release.resolve_isActive`: each height has one active release, and it
  is the one that is resolved.
* `Decoder.releaseFor_isActive`, `releaseFor_eq`: the events that a log of a release is decoded by.
* `decodeLog_of_lt_iris`: before `iris` logs are only taken for legacy events.
* `decodeLog_of_iris_le`: since `iris` they are decoded by an interface that starts like that of
  `iris`, if it has an event that fits.
-/

namespace ContractLens.Bridge

open Abi

/-! ## Heights -/

/-- The first height with events of the bridge. -/
def irisHeight : Network → UInt64
  | .mainnet => 3614800
  | .testnet => 2060500
  | .regtest => 0

variable {network : Network} {table : List Release} {n : UInt64}

/-- The active release is the last one whose activation height is reached. -/
theorem activeAt?_spec (hsorted : table.Pairwise fun r s => r.height < s.height) {r : Release}
    (h : Release.activeAt? n table = some r) :
    r ∈ table ∧ r.height ≤ n ∧ ∀ s ∈ table, s.height ≤ n → s.height ≤ r.height := by
  rw [Release.activeAt?, List.find?_eq_some_iff_append] at h
  obtain ⟨hr, after, before, htable, hafter⟩ := h
  have htable' : table = before.reverse ++ r :: after.reverse := by
    rw [← List.reverse_reverse table, htable]
    simp
  refine ⟨by simp [htable'], of_decide_eq_true hr, fun s hs hsn => ?_⟩
  rw [htable', List.mem_append, List.mem_cons, List.mem_reverse, List.mem_reverse] at hs
  rw [htable', List.pairwise_append] at hsorted
  obtain hs | rfl | hs := hs
  · exact UInt64.le_of_lt (hsorted.2.2 s (List.mem_reverse.mpr hs) r List.mem_cons_self)
  · exact UInt64.le_refl _
  · have hnot := hafter s hs
    simp [hsn] at hnot

example : (Release.activeAt? 4598499 Release.mainnet).map Release.name = some "iris" := by
  decide +kernel

theorem sorted_tableOf (h : Release.tableOf network = .ok table) :
    table.Pairwise fun r s => r.height < s.height := by
  cases network with
  | regtest => cases h
  | mainnet | testnet =>
    cases h
    decide

/-- A table has a release for each height, and one at the first height with events. -/
theorem exists_mem_tableOf (h : Release.tableOf network = .ok table) :
    (∃ s ∈ table, s.height = 0) ∧ (∃ s ∈ table, s.height = irisHeight network) ∧
      ∃ s, table.getLast? = some s := by
  cases network with
  | regtest => cases h
  | mainnet =>
    cases h
    exact ⟨by simp [Release.mainnet], by simp [Release.mainnet, irisHeight], _, rfl⟩
  | testnet =>
    cases h
    exact ⟨by simp [Release.testnet], by simp [Release.testnet, irisHeight], _, rfl⟩

/-! ## Active releases -/

/-- The activation height of a release is reached at a height. Without a height it always is. -/
def Release.IsReached (height : Option UInt64) (r : Release) : Prop :=
  ∀ n, height = some n → r.height ≤ n

/-- The release that is active on a network at a height: of those that are reached, the one with the
    greatest activation height. -/
def Release.IsActive (network : Network) (height : Option UInt64) (r : Release) : Prop :=
  ∃ table, Release.tableOf network = .ok table ∧ r ∈ table ∧ r.IsReached height ∧
    ∀ s ∈ table, s.IsReached height → s.height ≤ r.height

section Active

variable {r s : Release} {height : Option UInt64}

theorem Release.eq_of_height_eq (htable : Release.tableOf network = .ok table) (hr : r ∈ table)
    (hs : s ∈ table) (h : r.height = s.height) : r = s := by
  have hnodup : (table.map Release.height).Nodup :=
    List.pairwise_map.mpr ((sorted_tableOf htable).imp UInt64.ne_of_lt)
  exact List.inj_on_of_nodup_map hnodup hr hs h

theorem Release.IsActive.mem (h : r.IsActive network height)
    (htable : Release.tableOf network = .ok table) : r ∈ table := by
  obtain ⟨_, htable', hr, -⟩ := h
  obtain rfl := Except.ok.inj (htable.symm.trans htable')
  exact hr

theorem Release.IsActive.unique (hr : r.IsActive network height) (hs : s.IsActive network height) :
    r = s := by
  obtain ⟨table, htable, hmem, hreached, hmax⟩ := hr
  obtain ⟨_, htable', hmem', hreached', hmax'⟩ := hs
  obtain rfl := Except.ok.inj (htable.symm.trans htable')
  exact eq_of_height_eq htable hmem hmem'
    (UInt64.le_antisymm (hmax' r hmem hreached) (hmax s hmem' hreached'))

/-- The release that is resolved for a height is the active one. -/
theorem Release.resolve_isActive (htable : Release.tableOf network = .ok table)
    (height : Option UInt64) :
    ∃ r, Release.resolve (.ofOption height) network = .ok r ∧ r.IsActive network height := by
  have hsorted := sorted_tableOf htable
  obtain ⟨⟨first, hfirst, hzero⟩, -, last, hlast⟩ := exists_mem_tableOf htable
  rw [Release.resolve, htable, ok_bind]
  cases height with
  | none =>
    refine ⟨last, ?_, table, htable, List.mem_of_getLast? hlast, fun _ h => ?_, fun s hs _ => ?_⟩
    · simp only [ReleaseHeight.ofOption, hlast]
      rfl
    · cases h
    · -- the table is sorted, so that nothing stands behind its last release
      obtain ⟨before, rfl⟩ := List.getLast?_eq_some_iff.mp hlast
      rcases List.mem_append.mp hs with hs | hs
      · exact UInt64.le_of_lt ((List.pairwise_append.mp hsorted).2.2 s hs last (by simp))
      · rw [List.mem_singleton.mp hs]
        exact UInt64.le_refl _
  | some n =>
    obtain ⟨r, hr⟩ : ∃ r, Release.activeAt? n table = some r := by
      refine Option.isSome_iff_exists.mp (List.find?_isSome.mpr ⟨first, by simpa using hfirst, ?_⟩)
      rw [hzero]
      exact decide_eq_true UInt64.zero_le
    obtain ⟨hmem, hrn, hmax⟩ := activeAt?_spec hsorted hr
    refine ⟨r, ?_, table, htable, hmem, ?_, fun s hs hreached => hmax s hs (hreached n rfl)⟩
    · simp only [ReleaseHeight.ofOption, hr]
      rfl
    · rintro _ ⟨⟩
      exact hrn

theorem Release.IsActive.lt_irisHeight (h : r.IsActive network height) {n : UInt64}
    (hn : height = some n) (hlt : n < irisHeight network) : r.height < irisHeight network := by
  obtain ⟨-, -, -, hreached, -⟩ := h
  exact UInt64.lt_of_le_of_lt (hreached n hn) hlt

theorem Release.IsActive.irisHeight_le (h : r.IsActive network height)
    (hle : ∀ n, height = some n → irisHeight network ≤ n) : irisHeight network ≤ r.height := by
  obtain ⟨table, htable, -, -, hmax⟩ := h
  obtain ⟨-, ⟨s, hs, hheight⟩, -⟩ := exists_mem_tableOf htable
  rw [← hheight] at hle ⊢
  exact hmax s hs hle

end Active

/-! ## Decoders -/

/-- Each release has the decoder for its interface. -/
theorem releaseDecoders_spec {t : SignatureTable} (ht : t.Faithful) (table : List Release) :
    (Decoder.releaseDecoders t table).map Prod.fst = table ∧
      ∀ entry ∈ Decoder.releaseDecoders t table, ∃ t' : SignatureTable, t'.Faithful ∧
        entry.2 = .ofTable entry.1.abi t' := by
  induction table generalizing t with
  | nil => exact ⟨rfl, nofun⟩
  | cons r table ih =>
    have ht' := ht.annotate r.abi true
    obtain ⟨hfst, hentries⟩ := ih ht'
    rw [Decoder.releaseDecoders]
    exact ⟨by rw [List.map_cons, hfst],
      List.forall_mem_cons.mpr ⟨⟨_, ht', rfl⟩, hentries⟩⟩

theorem find?_eq_some_of_nodup {α β : Type} [BEq β] [LawfulBEq β] {key : α → β} {entries : List α}
    (hnodup : (entries.map key).Nodup) {a : α} (ha : a ∈ entries) :
    entries.find? (key · == key a) = some a := by
  cases hfind : entries.find? (key · == key a) with
  | none => exact absurd (beq_self_eq_true (key a)) (List.find?_eq_none.mp hfind a ha)
  | some found =>
    have hmem := List.mem_of_find?_eq_some hfind
    have hfound := List.find?_some hfind
    have hkey : key found = key a := eq_of_beq hfound
    rw [List.inj_on_of_nodup_map hnodup hmem ha hkey]

theorem names_nodup_tableOf (h : Release.tableOf network = .ok table) :
    (table.map Release.name).Nodup := by
  cases network with
  | regtest => cases h
  | mainnet | testnet =>
    cases h
    decide

/-- A release is found by its name. -/
theorem find?_releaseDecoders (htable : Release.tableOf network = .ok table) {r : Release}
    (hr : r ∈ table) : ∃ t : SignatureTable, t.Faithful ∧
      (Decoder.releaseDecoders .empty table).find? (·.1.name == r.name) =
        some (r, .ofTable r.abi t) := by
  obtain ⟨hfst, hentries⟩ := releaseDecoders_spec SignatureTable.faithful_empty table
  have hmem : r ∈ (Decoder.releaseDecoders .empty table).map Prod.fst := by rwa [hfst]
  obtain ⟨entry, hentry, rfl⟩ := List.mem_map.mp hmem
  have hnodup : ((Decoder.releaseDecoders .empty table).map fun e => e.1.name).Nodup := by
    have hnames := names_nodup_tableOf htable
    rwa [← hfst, List.map_map] at hnames
  obtain ⟨t, ht, hdecoder⟩ := hentries entry hentry
  refine ⟨t, ht, ?_⟩
  rw [← hdecoder]
  exact find?_eq_some_of_nodup hnodup hentry

/-- A decoder for a network takes the decoder of the active release. -/
theorem Decoder.releaseFor_isActive {d : Decoder} (hd : (Decoder.ofNetwork network).value = .ok d)
    (height : Option UInt64) :
    ∃ (r : Release) (t : SignatureTable), r.IsActive network height ∧ t.Faithful ∧
      d.releaseFor height = .ok (r, .ofTable r.abi t) := by
  unfold Decoder.ofNetwork at hd
  split at hd
  · cases hd
  next table htable =>
  obtain rfl : _ = d := Except.ok.inj hd
  obtain ⟨r, hresolve, hactive⟩ := Release.resolve_isActive htable height
  have hr : r ∈ table := hactive.mem htable
  obtain ⟨t, ht, hfind⟩ := find?_releaseDecoders htable hr
  refine ⟨r, t, hactive, ht, ?_⟩
  rw [Decoder.releaseFor]
  simp only
  rw [hresolve, ok_bind]
  simp only [hfind]
  rfl

/-- The decoder for a network uses the events in the interface of the release of a log. -/
theorem releaseFor_eq {d : Decoder} (hd : (Decoder.ofNetwork network).value = .ok d)
    (height : Option UInt64) :
    ∃ (table : List Release) (r : Release) (t : SignatureTable),
      Release.tableOf network = .ok table ∧ r ∈ table ∧ t.Faithful ∧
      d.releaseFor height = .ok (r, .ofTable r.abi t) ∧
      (∀ n, height = some n → n < irisHeight network → r.height < irisHeight network) ∧
      ((∀ n, height = some n → irisHeight network ≤ n) → irisHeight network ≤ r.height) := by
  obtain ⟨r, t, hactive, ht, hrelease⟩ := Decoder.releaseFor_isActive hd height
  obtain ⟨table, htable, hr, -⟩ := id hactive
  exact ⟨table, r, t, htable, hr, ht, hrelease, fun n => hactive.lt_irisHeight,
    hactive.irisHeight_le⟩

/-! ## Events -/

/-- Before `iris` there are no events. -/
theorem isEvent_eq_false_of_lt_iris (htable : Release.tableOf network = .ok table) {r : Release}
    (hr : r ∈ table) (hlt : r.height < irisHeight network) : ∀ f ∈ r.abi, f.isEvent = false := by
  cases network with
  | regtest => cases htable
  | mainnet =>
    cases htable
    have hall : ∀ r ∈ Release.mainnet, r.height < irisHeight .mainnet →
        ∀ f ∈ r.abi, f.isEvent = false := by
      decide +kernel
    exact hall r hr hlt
  | testnet =>
    cases htable
    have hall : ∀ r ∈ Release.testnet, r.height < irisHeight .testnet →
        ∀ f ∈ r.abi, f.isEvent = false := by
      decide +kernel
    exact hall r hr hlt

/-- Since `iris` the interface starts with the one of `iris`. -/
theorem exists_append_iris (htable : Release.tableOf network = .ok table) {r : Release}
    (hr : r ∈ table) (hle : irisHeight network ≤ r.height) : ∃ more, r.abi = iris ++ more := by
  have hhop (destination : String) : ∃ more, hopWith destination = iris ++ more := ⟨_, rfl⟩
  have hlovell : ∃ more, lovell = iris ++ more := by
    obtain ⟨more, hmore⟩ := hhop "string"
    exact ⟨more ++ _, by rw [lovell, fingerroot, hmore, List.append_assoc]⟩
  have hreed : ∃ more, reed = iris ++ more := by
    obtain ⟨more, hmore⟩ := hlovell
    exact ⟨more ++ _, by rw [reed, hmore, List.append_assoc]⟩
  cases network with
  | regtest => cases htable
  | mainnet =>
    cases htable
    simp only [Release.mainnet, List.mem_cons, List.not_mem_nil, or_false] at hr
    obtain rfl | rfl | rfl | rfl | rfl | rfl | rfl | rfl := hr
    · exact absurd hle (by decide)
    · exact absurd hle (by decide)
    · exact absurd hle (by decide)
    · exact ⟨[], (List.append_nil _).symm⟩
    · exact hhop _
    · exact hhop _
    · exact hlovell
    · exact hreed
  | testnet =>
    cases htable
    simp only [Release.testnet, List.mem_cons, List.not_mem_nil, or_false] at hr
    obtain rfl | rfl | rfl | rfl | rfl | rfl | rfl := hr
    · exact absurd hle (by decide)
    · exact absurd hle (by decide)
    · exact ⟨[], (List.append_nil _).symm⟩
    · exact hhop _
    · exact hhop _
    · exact hlovell
    · exact hreed

/-! ## Logs -/

variable {d : Decoder} {log : RawLog}

/-- Before `iris` logs are only taken for legacy events. -/
theorem decodeLog_of_lt_iris (hd : (Decoder.ofNetwork network).value = .ok d)
    (hheight : log.blockNumber = some n) (hn : n < irisHeight network) :
    (d.decodeLog log).value = (decodeLegacyLog (legacyEvents network) log).value := by
  obtain ⟨table, r, t, htable, hr, -, hrelease, hlt, -⟩ := releaseFor_eq hd log.blockNumber
  have hevents := EventDecoder.events_ofTable_of_noEvents t
    (isEvent_eq_false_of_lt_iris htable hr (hlt n hheight hn))
  have hfind : ((EventDecoder.ofTable r.abi t).findEvent log.topics).value = none := by
    cases log.topics with
    | nil => rfl
    | cons topic further => rw [EventDecoder.findEvent_eq_find?, hevents, List.find?_nil]
  rw [Decoder.decodeLog, hrelease]
  simp only [Noted.value_bind, hfind, Decoder.legacy_ofNetwork hd]

/-- Since `iris` the events of `iris` come first. -/
theorem decodeLog_of_iris_le (hd : (Decoder.ofNetwork network).value = .ok d)
    (hheight : ∀ n, log.blockNumber = some n → irisHeight network ≤ n) :
    ∃ (t : SignatureTable) (more : List Fragment), t.Faithful ∧
      ∀ k, ((EventDecoder.ofTable (iris ++ more) t).findEvent log.topics).value = some k →
        (d.decodeLog log).value =
          ((EventDecoder.ofTable (iris ++ more) t).decodeLog log).value := by
  obtain ⟨table, r, t, htable, hr, ht, hrelease, -, hle⟩ := releaseFor_eq hd log.blockNumber
  obtain ⟨more, habi⟩ := exists_append_iris htable hr (hle hheight)
  refine ⟨t, more, ht, fun k hfind => ?_⟩
  rw [Decoder.decodeLog, hrelease, habi]
  simp only [Noted.value_bind, hfind]

end ContractLens.Bridge
