import ContractLens.Proofs.Bridge.LegacyLog
import ContractLens.Proofs.Bridge.Releases

/-!
# Topics that name legacy events

The first topic of a legacy log is read as seven-bit ASCII: of each byte only the low seven bits
count, and those that are zero are left out. So a topic is read as the name of an event if these
bits are the name with zeros behind it, whatever the high bits are, and no topic is read as a name
whose letters are not all there, in order.

* `decodeLegacyLog_of_topic`: a log is decoded by the event that its first topic is read as.
* `eventName_eq_ok_iff`: the topics that are read as a name.
* `topicEvent?_iff`: the topics that are read as an event.
-/

namespace ContractLens.Bridge

/-! ## Events by topics -/

/-- The event that a topic is read as. -/
def topicEvent? (events : List LegacyEvent) (topic : String) : Option LegacyEvent :=
  (eventName topic).toOption.bind (findLegacyEvent events)

/-- What a log is decoded to by an event: the event if all its arguments can be read. -/
def LegacyEvent.decoded (e : LegacyEvent) (log : RawLog) : DecodedLog :=
  match (e.args log.topics.tail log.data).value with
  | .ok args => .decoded log ⟨e.name, e.hash, e.fragment, args⟩
  | .error _ => .undecoded log

/-- A log is decoded by the event that its first topic is read as. -/
theorem decodeLegacyLog_of_topic {events : List LegacyEvent} {log : RawLog} {topic : String}
    (htopic : log.topics.head? = some topic) :
    (decodeLegacyLog events log).value =
      ((topicEvent? events topic).map fun e => e.decoded log).getD (.undecoded log) := by
  obtain ⟨topics, htopics⟩ := List.head?_eq_some_iff.mp htopic
  rw [decodeLegacyLog, topicEvent?, htopics]
  cases hname : eventName topic with
  | error error => simp [hname, Except.toOption]
  | ok name =>
    cases hevent : findLegacyEvent events name with
    | none => simp [hname, hevent, Except.toOption]
    | some e =>
      have hfound := List.find?_some hevent
      obtain rfl : e.name = name := eq_of_beq hfound
      simp only [hname, hevent, Noted.value_bind, Except.toOption, Option.bind_some,
        Option.map_some, Option.getD_some, LegacyEvent.decoded, htopics, List.tail_cons]
      cases (e.args topics log.data).value <;> rfl

/-! ## Names by topics -/

/-- The low seven bits of bytes. -/
def sevenBits (raw : List UInt8) : List UInt8 := raw.map (· &&& 0x7f)

/-- No zero stands in front of a byte that is none. -/
def ZerosLast (raw : List UInt8) : Prop := raw.Pairwise fun a b => a = 0 → b = 0

/-- The bytes are the ASCII text with zeros behind it. -/
def IsPadded (raw : List UInt8) (name : String) : Prop :=
  ∃ count, raw = utf8Bytes name ++ List.replicate count 0

/-- Bytes are the ASCII bytes of a text exactly if the text consists of their characters. -/
theorem ofList_map_byteChar_eq_iff {raw : List UInt8} {name : String}
    (hname : ∀ c ∈ name.toList, c.toNat < 0x80) :
    String.ofList (raw.map Hex.byteChar) = name ↔ raw = utf8Bytes name := by
  constructor
  · rintro rfl
    have hbyte : ∀ b ∈ raw, UInt8.ofNat (Hex.byteChar b).toNat = b := by
      intro b _
      rw [Hex.toNat_byteChar, UInt8.ofNat_toNat]
    rw [LetterCase.utf8Bytes_of_ascii hname, String.toList_ofList, List.map_map]
    exact ((List.map_congr_left hbyte).trans (List.map_id _)).symm
  · rintro rfl
    rw [Hex.map_byteChar_utf8Bytes hname, String.ofList_toList]

/-- A topic is read as a name in ASCII exactly if its low seven bits are the name, with zeros
    anywhere. -/
theorem eventName_eq_ok_iff {topic name : String} (hname : ∀ c ∈ name.toList, c.toNat < 0x80) :
    eventName topic = .ok name ↔
      ∃ raw, decodeHex topic = .ok raw ∧ (sevenBits raw).filter (· != 0) = utf8Bytes name := by
  rw [eventName, bind_eq_ok_iff]
  refine exists_congr fun raw => and_congr_right fun _ => ?_
  rw [← ofList_map_byteChar_eq_iff hname]
  show Except.ok _ = Except.ok name ↔ _
  rw [Except.ok.injEq]
  exact Iff.rfl

/-- If no zero stands in front of another byte, all zeros stand behind the others. -/
theorem ZerosLast.eq_append {raw : List UInt8} (h : ZerosLast raw) :
    raw = raw.filter (· != 0) ++ List.replicate (raw.count 0) 0 := by
  induction raw with
  | nil => rfl
  | cons b raw ih =>
    obtain ⟨hzero, hraw⟩ := List.pairwise_cons.mp h
    by_cases hb : b = 0
    · have hrest : raw = List.replicate raw.length 0 :=
        List.eq_replicate_iff.mpr ⟨rfl, fun a ha => hzero a ha hb⟩
      rw [hb, hrest]
      simp [List.replicate_succ]
    · rw [List.filter_cons_of_pos (by simpa using hb), List.count_cons_of_ne hb, List.cons_append,
        ← ih hraw]

/-- Then what is left without zeros is a text exactly if the bytes are this text with padding. -/
theorem ZerosLast.filter_eq_iff {raw : List UInt8} (h : ZerosLast raw) {name : String}
    (hname : ∀ b ∈ utf8Bytes name, b ≠ 0) :
    raw.filter (· != 0) = utf8Bytes name ↔ IsPadded raw name := by
  constructor
  · intro hfilter
    refine ⟨raw.count 0, ?_⟩
    rw [← hfilter]
    exact h.eq_append
  · rintro ⟨count, rfl⟩
    have hkept : (utf8Bytes name).filter (· != 0) = utf8Bytes name :=
      List.filter_eq_self.mpr fun b hb => bne_iff_ne.mpr (hname b hb)
    rw [List.filter_append, hkept, List.filter_replicate_of_neg (by decide), List.append_nil]

/-! ## The events of the bridge -/

variable {network : Network} {e : LegacyEvent}

/-- The names of the legacy events are in ASCII and without zeros. -/
theorem ascii_legacyName (he : e ∈ legacyEvents network) :
    (∀ c ∈ e.name.toList, c.toNat < 0x80) ∧ ∀ b ∈ utf8Bytes e.name, b ≠ 0 := by
  have hall : ∀ e ∈ legacyEvents network, (e.name.toList.all fun c => decide (c.toNat < 0x80)) ∧
      (utf8Bytes e.name).all (· != 0) := by
    cases network <;> decide
  obtain ⟨hascii, hzeros⟩ := hall e he
  exact ⟨fun c hc => of_decide_eq_true (List.all_eq_true.mp hascii c hc),
    fun b hb => bne_iff_ne.mp (List.all_eq_true.mp hzeros b hb)⟩

theorem findLegacyEvent_name (he : e ∈ legacyEvents network) :
    findLegacyEvent (legacyEvents network) e.name = some e := by
  have hnames : ((legacyEvents network).map LegacyEvent.name).Nodup := by
    cases network <;> decide
  exact find?_eq_some_of_nodup hnames he

/-- A topic is read as an event exactly if it is read as its name. -/
theorem topicEvent?_eq_some_iff (he : e ∈ legacyEvents network) {topic : String} :
    topicEvent? (legacyEvents network) topic = some e ↔ eventName topic = .ok e.name := by
  rw [topicEvent?, Option.bind_eq_some_iff]
  constructor
  · rintro ⟨name, hname, hevent⟩
    have hfound := List.find?_some hevent
    rw [← toOption_eq_some_iff, hname, eq_of_beq hfound]
  · intro hname
    exact ⟨e.name, toOption_eq_some_iff.mpr hname, findLegacyEvent_name he⟩

/-- Of the bytes of a topic only the low seven bits count. If none of them is zero in front of
    another one that is not, the topic is read as an event exactly if they are its name with zeros
    behind it. Whatever is read as an event has the name of the event in these bits, in order. The
    log is decoded by this event. -/
theorem topicEvent?_iff (he : e ∈ legacyEvents network) (topic : String) :
    (∀ raw, decodeHex topic = .ok raw → ZerosLast (sevenBits raw) →
      (topicEvent? (legacyEvents network) topic = some e ↔ IsPadded (sevenBits raw) e.name)) ∧
    (topicEvent? (legacyEvents network) topic = some e →
      ∃ raw, decodeHex topic = .ok raw ∧
        (sevenBits raw).filter (· != 0) = utf8Bytes e.name) ∧
    ∀ log : RawLog, log.topics.head? = some topic →
      (decodeLegacyLog (legacyEvents network) log).value =
        ((topicEvent? (legacyEvents network) topic).map fun e => e.decoded log).getD
          (.undecoded log) := by
  obtain ⟨hascii, hzeros⟩ := ascii_legacyName he
  rw [topicEvent?_eq_some_iff he, eventName_eq_ok_iff hascii]
  refine ⟨fun raw hraw hlast => ?_, id, fun log => decodeLegacyLog_of_topic⟩
  rw [← hlast.filter_eq_iff hzeros]
  constructor
  · rintro ⟨raw', hraw', hfilter⟩
    obtain rfl := Except.ok.inj (hraw.symm.trans hraw')
    exact hfilter
  · intro hfilter
    exact ⟨raw, hraw, hfilter⟩

/-- The name of a release with zeros behind it is read as this event, also with a high bit in it. -/
theorem topicEvent?_releaseBtc :
    let raw : List UInt8 := [0x72, 0x65, 0x6c, 0x65, 0x61, 0x73, 0x65, 0x5f, 0x62, 0x74, 0xe3] ++
      List.replicate 21 0
    ∃ e ∈ legacyEvents .mainnet, e.name = "release_btc" ∧
      decodeHex (Hex.encodePrefixed raw) = .ok raw ∧ ZerosLast (sevenBits raw) ∧
        topicEvent? (legacyEvents .mainnet) (Hex.encodePrefixed raw) = some e := by
  intro raw
  obtain ⟨e, he, hname⟩ : ∃ e ∈ legacyEvents .mainnet, e.name = "release_btc" := by
    simp [legacyEvents]
  have hraw := decodeHex_encodePrefixed raw
  have hlast : ZerosLast (sevenBits raw) := by
    unfold ZerosLast
    decide
  have hpadded : IsPadded (sevenBits raw) e.name := by
    rw [hname]
    exact ⟨21, by decide⟩
  exact ⟨e, he, hname, hraw, hlast, ((topicEvent?_iff he _).1 raw hraw hlast).mpr hpadded⟩

/-- A log is decoded to an event though the first byte of its topic has its high bit set, so that
    the topic is not the name of the event with zeros behind it. -/
theorem topicEvent?_highBit :
    let raw := 0xf5 :: (utf8Bytes "pdate_collections" ++ List.replicate 14 0)
    let log := bridgeLog [raw] [0x80] 500000
    ¬IsPadded raw "update_collections" ∧
      ∃ topic, log.topics = [topic] ∧ decodeHex topic = .ok raw ∧
        ∃ e ∈ legacyEvents .mainnet, e.name = "update_collections" ∧
          topicEvent? (legacyEvents .mainnet) topic = some e ∧
          ∃ args, (decodeLegacyLog (legacyEvents .mainnet) log).value =
            .decoded log ⟨e.name, e.hash, e.fragment, args⟩ := by
  intro raw log
  have hraw := decodeHex_encodePrefixed raw
  have he : EventSource.updateCollections ∈ legacyEvents .mainnet := List.mem_cons_self ..
  have hname : eventName (Hex.encodePrefixed raw) = .ok EventSource.updateCollections.name :=
    (eventName_eq_ok_iff (ascii_legacyName he).1).mpr ⟨raw, hraw, by decide⟩
  have hfields : EventSource.updateCollections.layout.fields log.data = .ok [[]] := by
    rw [← toOption_eq_some_iff]
    decide +kernel
  obtain ⟨args, hargs⟩ :
      ∃ args, (EventSource.updateCollections.args [] log.data).value = .ok args := by
    rw [LegacyEvent.args, hfields]
    exact ⟨_, rfl⟩
  refine ⟨?_, _, rfl, hraw, _, he, rfl, (topicEvent?_eq_some_iff he).mpr hname, args,
    decodeLegacyLog_of_args rfl hname (findLegacyEvent_name he) hargs⟩
  rintro ⟨count, hpadded⟩
  have hbytes : utf8Bytes "update_collections" = 0x75 :: utf8Bytes "pdate_collections" := rfl
  rw [hbytes, List.cons_append] at hpadded
  exact absurd (List.cons.inj hpadded).1 (by decide)

end ContractLens.Bridge
