import ContractLens.Bridge.Legacy
import ContractLens.Bridge.Release

/-!
# Decoding the bridge's logs

A log of a built-in contract is first taken for an event of the release that is active at its block.
If no event of that release fits, it is taken for a legacy event.
-/

namespace ContractLens.Bridge

open Abi

/-- The decoder for the built-in contracts' logs on a network: a decoder for each release, and the
    legacy events (`NativeDecoder`). -/
structure Decoder where
  network : Network
  releases : List (Release × EventDecoder)
  legacy : List LegacyEvent

namespace Decoder

/-- A decoder for each release (in `NativeDecoder.new`). Signatures that were worked out for one
    release are kept for the next. -/
def releaseDecoders (t : SignatureTable) : List Release → List (Release × EventDecoder)
  | [] => []
  | r :: rest =>
    let t := t.annotate r.abi true
    (r, EventDecoder.ofTable r.abi t) :: releaseDecoders t rest

/-- The decoder for a network, which has to have a table of releases (`NativeDecoder.new`). -/
def ofNetwork (network : Network) : Noted (Except ConfigError Decoder) :=
  match Release.tableOf network with
  | .error e => pure (.error e)
  | .ok table => do
    let releases := releaseDecoders .empty table
    Noted.note ⟨.debug, "native decoder ready",
      [("network", network.name), ("releases", toString releases.length)]⟩
    return .ok ⟨network, releases, legacyEvents network⟩

/-- The release at a height, the latest one if there is none, with its decoder
    (`NativeDecoder.release_for`). -/
def releaseFor (d : Decoder) (height : Option UInt64) :
    Except ConfigError (Release × EventDecoder) := do
  let release ← Release.resolve (.ofOption height) d.network
  match d.releases.find? (·.1.name == release.name) with
  | some found => return found
  | none => throw (.unsupportedNetwork d.network.name)

/-- A log decoded to an event of its release or to a legacy event (`NativeDecoder.decode_log`). -/
def decodeLog (d : Decoder) (log : RawLog) : Noted DecodedLog :=
  match d.releaseFor log.blockNumber with
  | .ok (release, standard) => do
    match ← standard.findEvent log.topics with
    | some _ =>
      Noted.note ⟨.trace, "decoding with release ABI", [("release", release.name)]⟩
      standard.decodeLog log
    | none => decodeLegacyLog d.legacy log
  | .error _ => do
    Noted.note ⟨.debug, "no release for log", []⟩
    decodeLegacyLog d.legacy log

end Decoder

end ContractLens.Bridge
