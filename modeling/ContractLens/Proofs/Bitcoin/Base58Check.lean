import ContractLens.Bitcoin.Base58Check
import Mathlib.Tactic

/-!
# Base58Check without accesses out of range

The version byte of a text is found by cutting the bytes that the text stands for: the checksum is
their last four bytes, and it is compared with the first four bytes of a hash. None of these cuts
lies out of range, whatever the text is: `versionChecked_eq`.
-/

namespace ContractLens

theorem Sha256.length_sha256 (message : List UInt8) : (sha256 message).length = 32 := rfl

namespace Base58Check

/-- All differences, cuts and accesses stay in range for every text. -/
theorem versionChecked_eq (s : String) : versionChecked s = some (version? s) := by
  rw [versionChecked, version?]
  cases decode? s with
  | none => rfl
  | some raw =>
    by_cases hshort : raw.length < 5
    · simp [hshort, Nat.not_le.mpr hshort]
    · have hlong : 5 ≤ raw.length := Nat.not_lt.mp hshort
      have hcount : differenceWithin? raw.length 4 = some (raw.length - 4) := if_pos (by omega)
      have hpayload : splitWithin? (raw.length - 4) raw =
          some (raw.take (raw.length - 4), raw.drop (raw.length - 4)) := if_pos (by omega)
      have hfront (payload : List UInt8) :
          splitWithin? 4 (Sha256.sha256 (Sha256.sha256 payload)) =
            some (checksum payload, (Sha256.sha256 (Sha256.sha256 payload)).drop 4) :=
        if_pos (by rw [Sha256.length_sha256]; omega)
      -- five bytes leave one for the payload
      obtain ⟨version, rest, hrest⟩ :
          ∃ version rest, raw.take (raw.length - 4) = version :: rest := by
        refine List.exists_cons_of_ne_nil fun hnil => ?_
        have hlength := congrArg List.length hnil
        rw [List.length_take, List.length_nil] at hlength
        omega
      simp only [if_neg hshort, hcount, hpayload, hfront, Option.bind_eq_bind, Option.bind_some,
        hlong, true_and]
      split_ifs with hright
      · rw [hrest]
        rfl
      · rfl

example : versionChecked "31h1vYVSYuKP6AhS86fbRdMw9XHieotbST" = some (some 0x05) := by
  decide +kernel

end Base58Check

end ContractLens
