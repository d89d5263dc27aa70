import ContractLens.Inspector
import ContractLens.Proofs.Abi.Signature
import ContractLens.Proofs.Abi.SignatureTable
import ContractLens.Proofs.Hash.Keccak
import ContractLens.Proofs.Text.LetterCase
import Mathlib.Data.List.Find

/-!
# Which events are recognised

A decoder keeps the first event of each layout and leaves out the anonymous ones afterwards. So a
layout that starts with an anonymous event is lost, whatever other events have it.

* `Abi.Shadowed`: the first event with a fragment's layout is anonymous.
* `layoutHash_eq_iff_sameLayout`: the events that share a layout hash.
* `mem_events_iff`: the events of a decoder, from the fragments.
* `findEvent_eq_find?`: the event of a log is the first that fits.
* `exists_of_findEvent`: what is known of the event of a log.
* `findEvent_ofTable_of_front`: an event at the start of an interface description is found.
* `recognises_event_iff`: an event's logs are recognised exactly if some event with its hash and
  number of indexed inputs is not shadowed.
-/

namespace ContractLens

open Abi

/-! ## Layouts -/

/-- Two fragments have the same canonical signature and the same inputs indexed. -/
def Abi.SameLayout (f g : Fragment) : Prop :=
  f.canonicalSignature? = g.canonicalSignature? ∧
    f.inputs.map Param.isIndexed = g.inputs.map Param.isIndexed

instance (f g : Fragment) : Decidable (SameLayout f g) := inferInstanceAs (Decidable (_ ∧ _))

theorem Abi.SameLayout.iff_right {f g : Fragment} (h : SameLayout f g) (k : Fragment) :
    SameLayout k f ↔ SameLayout k g := by
  rw [SameLayout, SameLayout, h.1, h.2]

theorem Abi.SameLayout.hash_eq {f g : Fragment} (h : SameLayout f g) :
    (Signature.ofFragment f).hash = (Signature.ofFragment g).hash := by
  rw [Signature.ofFragment, Signature.ofFragment, h.1]

theorem Abi.SameLayout.indexedCount_eq {f g : Fragment} (h : SameLayout f g) :
    f.indexedCount = g.indexedCount := by
  have hcount (e : Fragment) : e.indexedCount = (e.inputs.map Param.isIndexed).count true := by
    simp [Fragment.indexedCount, List.count, List.countP_map, Function.comp_def]
  rw [hcount, hcount, h.2]

/-- The text behind the layout hash of a named event. -/
def Abi.Fragment.layoutText? (f : Fragment) : Option String :=
  f.canonicalSignature?.map (layoutText · (f.inputs.map Param.isIndexed))

/-- The layout texts of the events among the fragments. -/
def Abi.layoutTexts (fragments : List Fragment) : List String :=
  (fragments.filter (·.isEvent)).filterMap (·.layoutText?)

/-- No two layouts of the events among the fragments have the same hash. -/
def Abi.CollisionFree (fragments : List Fragment) : Prop :=
  Set.InjOn Keccak.keccak256Hex {text | text ∈ layoutTexts fragments}

/-! ## The first event of a layout -/

/-- The first event among the fragments with the layout of a fragment. -/
def Abi.firstWithLayout? (fragments : List Fragment) (f : Fragment) : Option Fragment :=
  fragments.find? fun g => g.isEvent && decide (SameLayout g f)

theorem Abi.firstWithLayout?_spec {fragments : List Fragment} {f g : Fragment}
    (h : firstWithLayout? fragments f = some g) :
    g ∈ fragments ∧ g.isEvent = true ∧ SameLayout g f := by
  have hg := List.find?_some h
  rw [Bool.and_eq_true, decide_eq_true_iff] at hg
  exact ⟨List.mem_of_find?_eq_some h, hg⟩

/-- Fragments with the same layout have the same first event with it. -/
theorem Abi.SameLayout.firstWithLayout?_eq {f g : Fragment} (h : SameLayout f g)
    (fragments : List Fragment) : firstWithLayout? fragments f = firstWithLayout? fragments g := by
  simp only [firstWithLayout?, h.iff_right]

/-- The first event with the layout of this one is anonymous. -/
def Abi.Shadowed (fragments : List Fragment) (f : Fragment) : Prop :=
  ∃ g, firstWithLayout? fragments f = some g ∧ g.anonymous = some true

/-- An event with this hash and number of indexed inputs is not shadowed. -/
def Abi.Visible (fragments : List Fragment) (hash : String) (count : ℕ) : Prop :=
  ∃ f ∈ fragments, f.isEvent = true ∧ (Signature.ofFragment f).hash = some hash ∧
    f.indexedCount = count ∧ ¬ Shadowed fragments f

/-- The events that are not shadowed are represented by the first ones of their layouts. -/
theorem Abi.visible_iff {fragments : List Fragment} {hash : String} {count : ℕ} :
    Visible fragments hash count ↔
      ∃ f, firstWithLayout? fragments f = some f ∧ f.anonymous ≠ some true ∧
        (Signature.ofFragment f).hash = some hash ∧ f.indexedCount = count := by
  constructor
  · rintro ⟨f, hf, hev, hhash, hcount, hopen⟩
    cases hfirst : firstWithLayout? fragments f with
    | none => exact absurd (by simp [hev, SameLayout]) (List.find?_eq_none.mp hfirst f hf)
    | some g =>
      obtain ⟨-, -, hsame⟩ := firstWithLayout?_spec hfirst
      refine ⟨g, ?_, fun hanon => hopen ⟨g, hfirst, hanon⟩, ?_, ?_⟩
      · rw [hsame.firstWithLayout?_eq, hfirst]
      · rw [hsame.hash_eq, hhash]
      · rw [hsame.indexedCount_eq, hcount]
  · rintro ⟨f, hfirst, hanon, hhash, hcount⟩
    obtain ⟨hf, hev, -⟩ := firstWithLayout?_spec hfirst
    refine ⟨f, hf, hev, hhash, hcount, ?_⟩
    rintro ⟨g, hg, hganon⟩
    obtain rfl := Option.some.inj (hfirst.symm.trans hg)
    exact hanon hganon

/-! ## Hashes of layouts -/

theorem hash_ofFragment_eq_some_iff {f : Fragment} {hash : String} :
    (Signature.ofFragment f).hash = some hash ↔
      ∃ name, f.name? = some name ∧ Keccak.keccak256Hex (signatureText name f.inputs) = hash := by
  rw [Signature.ofFragment]
  cases hname : f.name? with
  | none => simp [Fragment.canonicalSignature?, hname]
  | some name => simp [canonicalSignature?_of_name hname]

/-- Named fragments have the same layout text exactly if they have the same layout. -/
theorem layoutText_eq_iff {f g : Fragment} {name name' : String} (hname : f.name? = some name)
    (hname' : g.name? = some name') :
    layoutText (signatureText name f.inputs) (f.inputs.map Param.isIndexed) =
        layoutText (signatureText name' g.inputs) (g.inputs.map Param.isIndexed) ↔
      SameLayout f g := by
  rw [SameLayout, canonicalSignature?_of_name hname, canonicalSignature?_of_name hname',
    Option.some.injEq]
  constructor
  · exact layoutText_inj
  · rintro ⟨hsig, hflags⟩
    rw [hsig, hflags]

/-- Two named events have layout texts, and the hashes of these are their layout hashes. The texts
    are the same exactly if the canonical signatures and the indexed flags are, whatever the names
    and the types; and so are the hashes, unless the two texts collide. -/
theorem layoutHash_eq_iff_sameLayout {f g : Fragment} (hf : f.isEvent = true)
    (hg : g.isEvent = true) {name name' : String} (hname : f.name? = some name)
    (hname' : g.name? = some name') :
    ∃ text text' : String,
      f.layoutText? = some text ∧ g.layoutText? = some text' ∧
      (Signature.ofFragment f).layoutHash = some (Keccak.keccak256Hex text) ∧
      (Signature.ofFragment g).layoutHash = some (Keccak.keccak256Hex text') ∧
      (text = text' ↔ SameLayout f g) ∧
      ((Signature.ofFragment f).layoutHash = (Signature.ofFragment g).layoutHash ↔
        SameLayout f g ∨ Keccak.Collides text text') := by
  refine ⟨_, _, ?_, ?_, ?_, ?_, layoutText_eq_iff hname hname', ?_⟩
  · rw [Fragment.layoutText?, canonicalSignature?_of_name hname]
    rfl
  · rw [Fragment.layoutText?, canonicalSignature?_of_name hname']
    rfl
  · rw [ofFragment_event hf hname]
  · rw [ofFragment_event hg hname']
  · rw [ofFragment_event hf hname, ofFragment_event hg hname', Option.some.injEq,
      Keccak.keccak256Hex_eq_iff, layoutText_eq_iff hname hname']

/-- A transfer whose recipient is indexed or not. -/
def transferEvent (recipientIndexed : Bool) : Fragment :=
  .ofEvent "Transfer" [.ofEvent "from" "address" true, .ofEvent "to" "address" recipientIndexed,
    .ofEvent "value" "uint256" false]

/-- Transfers that differ in an indexed flag only have different layout texts. -/
theorem layoutText?_transferEvent :
    ∃ text text' : String,
      (transferEvent true).layoutText? = some text ∧
      (transferEvent false).layoutText? = some text' ∧ text ≠ text' ∧
      ((Signature.ofFragment (transferEvent true)).layoutHash =
          (Signature.ofFragment (transferEvent false)).layoutHash ↔
        Keccak.Collides text text') := by
  have hlayout : ¬ SameLayout (transferEvent true) (transferEvent false) := by decide
  obtain ⟨text, text', htext, htext', -, -, hiff, hhash⟩ :=
    layoutHash_eq_iff_sameLayout (f := transferEvent true) (g := transferEvent false) rfl rfl
      rfl rfl
  exact ⟨text, text', htext, htext', fun heq => hlayout (hiff.mp heq),
    hhash.trans (or_iff_right hlayout)⟩

/-- Between the events among fragments without collisions, equal layout hashes mean equal
    layouts. -/
theorem layoutHash_eq_iff {fragments : List Fragment} (hfree : CollisionFree fragments)
    {f g : Fragment} (hf : f ∈ fragments) (hg : g ∈ fragments) (hfe : f.isEvent = true)
    (hge : g.isEvent = true) {name : String} (hname : f.name? = some name) :
    (Signature.ofFragment g).layoutHash = (Signature.ofFragment f).layoutHash ↔ SameLayout g f := by
  have htext : ∀ {e : Fragment} {n : String}, e ∈ fragments → e.isEvent = true → e.name? = some n →
      layoutText (signatureText n e.inputs) (e.inputs.map Param.isIndexed) ∈
        layoutTexts fragments := by
    intro e n he hev hn
    refine List.mem_filterMap.mpr ⟨e, List.mem_filter.mpr ⟨he, hev⟩, ?_⟩
    rw [Fragment.layoutText?, canonicalSignature?_of_name hn]
    rfl
  cases hgname : g.name? with
  | none =>
    have hgsig : g.canonicalSignature? = none := by rw [Fragment.canonicalSignature?, hgname]; rfl
    rw [layoutHash_of_unnamed hgname, ofFragment_event hfe hname, SameLayout, hgsig,
      canonicalSignature?_of_name hname]
    simp
  | some name' =>
    rw [ofFragment_event hfe hname, ofFragment_event hge hgname, Option.some.injEq,
      ← layoutText_eq_iff hgname hname]
    exact hfree.eq_iff (htext hg hge hgname) (htext hf hfe hname)

/-- Among fragments without collisions, a named event is kept if it is the first with its layout. -/
theorem mem_dedupeEvents_iff_first {fragments : List Fragment} {t : SignatureTable}
    (ht : t.Faithful) (hfree : CollisionFree fragments) {f : Fragment} (hf : f ∈ fragments)
    (hfe : f.isEvent = true) {name : String} (hname : f.name? = some name) :
    f ∈ dedupeEvents fragments t ↔ firstWithLayout? fragments f = some f := by
  rw [mem_dedupeEvents_iff_of_event hfe, List.find?_filter, firstWithLayout?]
  have hcongr : ∀ g ∈ fragments,
      decide (g.isEvent = true ∧ (layoutOf t g == layoutOf t f) = true) =
        (g.isEvent && decide (SameLayout g f)) := by
    intro g hg
    rw [Bool.eq_iff_iff, Bool.and_eq_true, decide_eq_true_iff, decide_eq_true_iff]
    refine and_congr_right fun hge => ?_
    rw [beq_iff_eq, layoutOf, layoutOf, ht.signature_eq, ht.signature_eq]
    exact layoutHash_eq_iff hfree hf hg hfe hge hname
  rw [List.find?_congr hcongr]

/-! ## The events of a decoder -/

namespace EventDecoder

/-- Only a named fragment has a hash. -/
theorem exists_name_of_hash {t : SignatureTable} (ht : t.Faithful) {f : Fragment} {hash : String}
    (h : (t.signature f).hash = some hash) :
    ∃ name, f.name? = some name ∧ hash = Keccak.keccak256Hex (signatureText name f.inputs) := by
  rw [ht.signature_eq] at h
  obtain ⟨name, hname, hhash⟩ := hash_ofFragment_eq_some_iff.mp h
  exact ⟨name, hname, hhash.symm⟩

/-- A fragment is a known event if it is a named event that is not anonymous. -/
theorem knownEvent?_eq_some_iff {t : SignatureTable} (ht : t.Faithful) (f : Fragment)
    (k : KnownEvent) :
    knownEvent? t f = some k ↔ f.isEvent = true ∧ f.anonymous ≠ some true ∧
      ∃ name, f.name? = some name ∧
        k = ⟨f, name, Keccak.keccak256Hex (signatureText name f.inputs), f.indexedCount⟩ := by
  have hopen : (f.isEvent && f.anonymous != some true) = true ↔
      f.isEvent = true ∧ f.anonymous ≠ some true := by
    rw [Bool.and_eq_true, bne_iff_ne]
  rw [knownEvent?, Option.ite_none_right_eq_some, hopen, Option.map_eq_some_iff, and_assoc]
  refine and_congr_right fun hev => and_congr_right fun _ => ?_
  rw [ht.signature_eq, indexedCount_ofFragment hev]
  constructor
  · rintro ⟨hash, hhash, rfl⟩
    rw [← ht.signature_eq] at hhash
    obtain ⟨name, hname, rfl⟩ := exists_name_of_hash ht hhash
    exact ⟨name, hname, by rw [hname, Option.getD_some]⟩
  · rintro ⟨name, hname, rfl⟩
    exact ⟨_, hash_ofFragment_eq_some_iff.mpr ⟨name, hname, rfl⟩, by rw [hname, Option.getD_some]⟩

/-- The events of a decoder are the named ones that are not anonymous among those that are the first
    of their layout. -/
theorem mem_events_iff {fragments : List Fragment} (hfree : CollisionFree fragments)
    (k : KnownEvent) :
    k ∈ (ofFragments fragments).events ↔
      ∃ f, firstWithLayout? fragments f = some f ∧ f.anonymous ≠ some true ∧
        ∃ name, f.name? = some name ∧
        k = ⟨f, name, Keccak.keccak256Hex (signatureText name f.inputs), f.indexedCount⟩ := by
  have ht := SignatureTable.faithful_ofFragments fragments
  simp only [ofFragments, ofTable, List.mem_filterMap, knownEvent?_eq_some_iff ht]
  constructor
  · rintro ⟨f, hf, hev, hanon, name, hname, rfl⟩
    have hmem : f ∈ fragments := mem_of_mem_dedupeEvents hf
    exact ⟨f, (mem_dedupeEvents_iff_first ht hfree hmem hev hname).mp hf, hanon, name, hname,
      rfl⟩
  · rintro ⟨f, hfirst, hanon, name, hname, rfl⟩
    obtain ⟨hmem, hev, -⟩ := firstWithLayout?_spec hfirst
    exact ⟨f, (mem_dedupeEvents_iff_first ht hfree hmem hev hname).mpr hfirst, hev, hanon, name,
      hname, rfl⟩

/-- A single event is known. -/
theorem events_ofFragments_singleton {f : Fragment} {name : String} (hev : f.isEvent = true)
    (hanon : f.anonymous ≠ some true) (hname : f.name? = some name) :
    (ofFragments [f]).events =
      [⟨f, name, Keccak.keccak256Hex (signatureText name f.inputs), f.indexedCount⟩] := by
  have hkept (t : SignatureTable) : dedupeEvents [f] t = [f] := by
    simp [dedupeEvents, hev, firstOfEachLayout]
  have hknown := (knownEvent?_eq_some_iff (SignatureTable.faithful_ofFragments [f]) f _).mpr
    ⟨hev, hanon, name, hname, rfl⟩
  rw [ofFragments, ofTable, hkept, List.filterMap_cons_some hknown, List.filterMap_nil]

/-- A decoder for the fragments that are left of a list has the events of the whole list. -/
theorem ofTable_dedupeEvents (fragments : List Fragment) :
    ofTable (dedupeEvents fragments (.ofFragments fragments)) (.ofFragments fragments) =
      ofFragments fragments := by
  rw [ofTable, dedupeEvents_idem, ofFragments, ofTable]

/-! ## The event of a log -/

/-- The event of a log is the first that fits. -/
theorem findEvent_eq_find? (d : EventDecoder) (topic : String) (further : List String) :
    (d.findEvent (topic :: further)).value =
      d.events.find? (fits (RawLog.plainTopic topic) further.length) := by
  rw [← List.head?_filter, findEvent]
  cases h : d.events.filter (fits (RawLog.plainTopic topic) further.length) with
  | nil => rfl
  | cons e others => cases others <;> rfl

theorem fits_iff {topic : String} {further : ℕ} {e : KnownEvent} :
    fits topic further e = true ↔ e.hash = topic ∧ e.indexedCount = further := by
  rw [fits, Bool.and_eq_true, beq_iff_eq, beq_iff_eq]

/-- What is found for topics fits them, and it is a named event among the fragments that is not
    anonymous. -/
theorem exists_of_findEvent {fragments : List Fragment} {t : SignatureTable} (ht : t.Faithful)
    {topics : List String} {k : KnownEvent}
    (h : ((ofTable fragments t).findEvent topics).value = some k) :
    ∃ topic further f name, topics = topic :: further ∧
      fits (RawLog.plainTopic topic) further.length k = true ∧
      f ∈ fragments ∧ f.isEvent = true ∧ f.anonymous ≠ some true ∧ f.name? = some name ∧
      k = ⟨f, name, Keccak.keccak256Hex (signatureText name f.inputs), f.indexedCount⟩ := by
  cases topics with
  | nil => cases h
  | cons topic further =>
    rw [findEvent_eq_find?] at h
    obtain ⟨f, hf, hknown⟩ := List.mem_filterMap.mp (List.mem_of_find?_eq_some h)
    obtain ⟨hev, hanon, name, hname, hk⟩ := (knownEvent?_eq_some_iff ht f k).mp hknown
    exact ⟨topic, further, f, name, rfl, List.find?_some h, mem_of_mem_dedupeEvents hf, hev, hanon,
      hname, hk⟩

/-- A log with these topics is recognised as an event with this hash and this number of indexed
    inputs. -/
def Recognises (d : EventDecoder) (topics : List String) (hash : String) (count : ℕ) : Prop :=
  ∃ k, (d.findEvent topics).value = some k ∧
    (Signature.ofFragment k.fragment).hash = some hash ∧ k.fragment.indexedCount = count

/-- A topic spells a hash: its digits in either letter case, with or without `0x`. -/
def Spells (topic hash : String) : Prop :=
  ∃ digits, (topic = digits ∨ topic = "0x" ++ digits) ∧ LetterCase.asciiLower digits = hash

theorem spells_marked (text : String) :
    Spells ("0x" ++ Keccak.keccak256Hex text) (Keccak.keccak256Hex text) :=
  ⟨Keccak.keccak256Hex text, Or.inr rfl, LetterCase.asciiLower_encode _⟩

theorem plainTopic_of_spells {topic text : String} (h : Spells topic (Keccak.keccak256Hex text)) :
    RawLog.plainTopic topic = Keccak.keccak256Hex text := by
  obtain ⟨digits, htopic, hdigits⟩ := h
  have hstrip : Hex.stripMarker topic = digits := by
    rcases htopic with rfl | rfl
    · exact LetterCase.stripMarker_of_asciiLower_hex hdigits
    · exact Hex.stripMarker_append digits
  rw [RawLog.plainTopic, hstrip]
  exact LetterCase.lower_of_asciiLower_hex hdigits

/-! ## Events at the start of an interface description -/

theorem knownEvent?_eq_none (t : SignatureTable) {f : Fragment} (h : f.isEvent = false) :
    knownEvent? t f = none := by
  rw [knownEvent?, h, Bool.false_and, if_neg Bool.false_ne_true]

/-- Without events nothing is known. -/
theorem events_ofTable_of_noEvents {fragments : List Fragment} (t : SignatureTable)
    (h : ∀ f ∈ fragments, f.isEvent = false) : (ofTable fragments t).events = [] :=
  List.filterMap_eq_nil_iff.mpr fun f hf => knownEvent?_eq_none t (h f (mem_of_mem_dedupeEvents hf))

/-- Events at the start with layouts of their own are the first ones that are known. -/
theorem exists_events_ofTable_append {fragments front rest : List Fragment} {t : SignatureTable}
    (hfront : fragments.filter (·.isEvent) = front ++ rest)
    (hnodup : (front.map (layoutOf t)).Nodup) :
    ∃ more, (ofTable fragments t).events = front.filterMap (knownEvent? t) ++ more := by
  obtain ⟨seen, hkept⟩ := firstOfEachLayout_append hnodup (fun _ _ => List.not_mem_nil) rest
  have hother : (fragments.filter (!·.isEvent)).filterMap (knownEvent? t) = [] :=
    List.filterMap_eq_nil_iff.mpr fun f hf =>
      knownEvent?_eq_none t (by simpa using (List.mem_filter.mp hf).2)
  exact ⟨_, by rw [ofTable, dedupeEvents, hfront, hkept, List.filterMap_append, hother,
    List.nil_append, List.filterMap_append]⟩

/-- An event at the start is found if no event before it has as many indexed inputs. -/
theorem findEvent_ofTable_of_front {fragments before rest : List Fragment} {t : SignatureTable}
    (ht : t.Faithful) {f : Fragment}
    (hfront : fragments.filter (·.isEvent) = before ++ f :: rest)
    (hnodup : ((before ++ [f]).map (layoutOf t)).Nodup)
    (hcount : ∀ g ∈ before, g.indexedCount ≠ f.indexedCount) (hanon : f.anonymous ≠ some true)
    {name topic : String} {further : List String} (hname : f.name? = some name)
    (htopic : Spells topic (Keccak.keccak256Hex (signatureText name f.inputs)))
    (hfurther : further.length = f.indexedCount) :
    ((ofTable fragments t).findEvent (topic :: further)).value =
      some ⟨f, name, Keccak.keccak256Hex (signatureText name f.inputs), f.indexedCount⟩ := by
  have hev : f.isEvent = true := by
    have hmem : f ∈ fragments.filter (·.isEvent) := by
      rw [hfront]
      exact List.mem_append_right _ List.mem_cons_self
    exact (List.mem_filter.mp hmem).2
  have hknown := (knownEvent?_eq_some_iff ht f _).mpr ⟨hev, hanon, name, hname, rfl⟩
  rw [List.append_cons] at hfront
  obtain ⟨more, hevents⟩ := exists_events_ofTable_append hfront hnodup
  have hbefore : (before.filterMap (knownEvent? t)).find?
      (fits (RawLog.plainTopic topic) further.length) = none := by
    rw [List.find?_eq_none]
    intro k hk hfits
    obtain ⟨g, hg, hgk⟩ := List.mem_filterMap.mp hk
    obtain ⟨-, -, _, -, rfl⟩ := (knownEvent?_eq_some_iff ht g k).mp hgk
    exact hcount g hg ((fits_iff.mp hfits).2.trans hfurther)
  rw [findEvent_eq_find?, hevents, List.filterMap_append, List.filterMap_cons_some hknown,
    List.find?_append, List.find?_append, hbefore, Option.none_or, List.filterMap_nil,
    List.find?_cons_of_pos (fits_iff.mpr ⟨(plainTopic_of_spells htopic).symm, hfurther.symm⟩)]
  rfl

/-- A decoder recognises the logs of a hash and a number of indexed inputs exactly if an event with
    them is not shadowed. -/
theorem recognises_iff {fragments : List Fragment} (hfree : CollisionFree fragments)
    {topic text : String} (further : List String)
    (hspell : Spells topic (Keccak.keccak256Hex text)) :
    (ofFragments fragments).Recognises (topic :: further) (Keccak.keccak256Hex text)
        further.length ↔
      Visible fragments (Keccak.keccak256Hex text) further.length := by
  rw [visible_iff, Recognises]
  rw [findEvent_eq_find?, plainTopic_of_spells hspell]
  constructor
  · rintro ⟨k, hk, hhash, hcount⟩
    obtain ⟨f, hfirst, hanon, name, hname, rfl⟩ :=
      (mem_events_iff hfree k).mp (List.mem_of_find?_eq_some hk)
    exact ⟨f, hfirst, hanon, hhash, hcount⟩
  · rintro ⟨f, hfirst, hanon, hhash, hcount⟩
    -- the event itself fits, so that some event is found, and whatever is found fits too
    obtain ⟨name, hname, htext⟩ := hash_ofFragment_eq_some_iff.mp hhash
    let e : KnownEvent :=
      ⟨f, name, Keccak.keccak256Hex (signatureText name f.inputs), f.indexedCount⟩
    have hmem : e ∈ (ofFragments fragments).events :=
      (mem_events_iff hfree e).mpr ⟨f, hfirst, hanon, name, hname, rfl⟩
    have hfits : fits (Keccak.keccak256Hex text) further.length e = true :=
      fits_iff.mpr ⟨htext, hcount⟩
    cases hfound : (ofFragments fragments).events.find?
        (fits (Keccak.keccak256Hex text) further.length) with
    | none => exact absurd hfits (List.find?_eq_none.mp hfound _ hmem)
    | some k =>
      refine ⟨k, rfl, ?_⟩
      obtain ⟨hkhash, hkcount⟩ := fits_iff.mp (List.find?_some hfound)
      obtain ⟨g, -, -, gname, hgname, rfl⟩ :=
        (mem_events_iff hfree k).mp (List.mem_of_find?_eq_some hfound)
      exact ⟨hash_ofFragment_eq_some_iff.mpr ⟨gname, hgname, hkhash⟩, hkcount⟩

end EventDecoder

/-! ## Two events with one layout -/

/-- An event with one number, anonymous or not. -/
def Abi.ping (anonymous : Bool) : Fragment :=
  { Fragment.ofEvent "Ping" [.ofEvent "n" "uint256" false] with anonymous := some anonymous }

theorem Abi.sameLayout_ping (a b : Bool) : SameLayout (ping a) (ping b) := ⟨rfl, rfl⟩

theorem Abi.firstWithLayout?_ping (a b c : Bool) :
    firstWithLayout? [ping a, ping b] (ping c) = some (ping a) := by
  rw [firstWithLayout?, List.find?_cons_of_pos]
  rw [decide_eq_true (sameLayout_ping a c)]
  rfl

theorem Abi.collisionFree_ping (a b : Bool) : CollisionFree [ping a, ping b] := by
  have htexts : layoutTexts [ping a, ping b] =
      [layoutText (signatureText "Ping" (ping a).inputs) [false],
        layoutText (signatureText "Ping" (ping a).inputs) [false]] := rfl
  have hone : ∀ text ∈ layoutTexts [ping a, ping b],
      text = layoutText (signatureText "Ping" (ping a).inputs) [false] := by
    rw [htexts]
    simp
  intro s hs t ht _
  rw [hone s hs, hone t ht]

/-! ## Completeness -/

/-- An inspector has the events of its interface description. -/
theorem Inspector.events_withAbi (i : Inspector) (fragments : List Fragment) :
    (i.withAbi (some fragments)).events = EventDecoder.ofFragments fragments :=
  EventDecoder.ofTable_dedupeEvents fragments

/-- The logs of a named event are recognised, by a decoder and by an inspector, exactly if an event
    with the same hash and number of indexed inputs is not shadowed by an anonymous one. -/
theorem recognises_event_iff {fragments : List Fragment} (hfree : CollisionFree fragments)
    {e : Fragment} {name : String} (hname : e.givenName = some name) (hne : name ≠ "") :
    ∃ hash, (Signature.ofFragment e).hash = some hash ∧
      ∀ topic further, EventDecoder.Spells topic hash → further.length = e.indexedCount →
        ((EventDecoder.ofFragments fragments).Recognises (topic :: further) hash e.indexedCount ↔
          Visible fragments hash e.indexedCount) ∧
        ∀ i : Inspector, (i.withAbi (some fragments)).events.Recognises (topic :: further) hash
          e.indexedCount ↔ Visible fragments hash e.indexedCount := by
  refine ⟨Keccak.keccak256Hex (signatureText name e.inputs), ?_, ?_⟩
  · exact hash_ofFragment_eq_some_iff.mpr ⟨name, name?_eq_some_iff.mpr ⟨hname, hne⟩, rfl⟩
  intro topic further hspell hcount
  rw [← hcount]
  have hiff := EventDecoder.recognises_iff hfree further hspell
  refine ⟨hiff, fun i => ?_⟩
  rw [Inspector.events_withAbi, hiff]

/-- With the event that is not anonymous in front, its logs are recognised. -/
theorem recognises_open_event :
    ∃ hash, (Signature.ofFragment (ping false)).hash = some hash ∧
      (EventDecoder.ofFragments [ping false, ping true]).Recognises ["0x" ++ hash] hash 0 := by
  have hname : (ping false).givenName = some "Ping" := rfl
  obtain ⟨hash, hhash, hiff⟩ :=
    recognises_event_iff (collisionFree_ping false true) hname (by decide)
  obtain ⟨name, -, rfl⟩ := hash_ofFragment_eq_some_iff.mp hhash
  refine ⟨_, hhash, (hiff _ [] (EventDecoder.spells_marked _) rfl).1.mpr ?_⟩
  refine ⟨ping false, List.mem_cons_self .., rfl, hhash, rfl, ?_⟩
  rintro ⟨g, hg, hanon⟩
  rw [firstWithLayout?_ping] at hg
  obtain rfl := Option.some.inj hg
  exact absurd hanon (by decide)

/-- An anonymous event in front of an event that differs in nothing else hides it. -/
theorem anonymous_hides_open_event :
    CollisionFree [ping true, ping false] ∧ ping false ∈ [ping true, ping false] ∧
      (ping false).givenName = some "Ping" ∧ (ping false).anonymous = some false ∧
      ∃ hash, (Signature.ofFragment (ping false)).hash = some hash ∧
        ((EventDecoder.ofFragments [ping true, ping false]).findEvent ["0x" ++ hash]).value =
          none := by
  have hfree := collisionFree_ping true false
  have hnone : (EventDecoder.ofFragments [ping true, ping false]).events = [] := by
    refine List.eq_nil_iff_forall_not_mem.mpr fun k hk => ?_
    obtain ⟨f, hfirst, hanon, -⟩ := (EventDecoder.mem_events_iff hfree k).mp hk
    obtain ⟨hmem, -, -⟩ := firstWithLayout?_spec hfirst
    have hping : ∃ c, f = ping c := by
      rcases List.mem_pair.mp hmem with rfl | rfl
      · exact ⟨true, rfl⟩
      · exact ⟨false, rfl⟩
    obtain ⟨c, rfl⟩ := hping
    rw [firstWithLayout?_ping] at hfirst
    exact hanon (Option.some.inj hfirst ▸ rfl)
  refine ⟨hfree, by simp, rfl, rfl, _,
    hash_ofFragment_eq_some_iff.mpr ⟨"Ping", by decide, rfl⟩, ?_⟩
  rw [EventDecoder.findEvent_eq_find?, hnone, List.find?_nil]

end ContractLens
