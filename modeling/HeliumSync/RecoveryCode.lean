import HeliumSync.Base64
import HeliumSync.Crypto

/-! Recovery codes: each key has one, and no other text is taken for it. -/
namespace HeliumSync

/-- A SHA-256 digest. -/
abbrev Digest := { bytes : Bytes // bytes.length = 32 }

/-- `RECOVERY_PREFIX` -/
def recoveryPrefix : String := "hsync1:"

/-- `MASTER_KEY_LENGTH` -/
def masterKeyLength : Nat := 32

/-- `str::strip_prefix` -/
def stripPrefix (start text : String) : Option String :=
  if start.toList <+: text.toList then some (String.ofList (text.toList.drop start.toList.length))
  else none

namespace MasterKey
variable (sha256 : Bytes → Digest)

/-- `recovery_code` -/
def recoveryCode (key : MasterKey) : String :=
  let checksum := sha256 key.bytes
  recoveryPrefix ++ Base64.encode (key.bytes ++ checksum.val.take 4)

/-- `from_recovery_code` -/
def fromRecoveryCode (code : String) : Except ClientError MasterKey :=
  match stripPrefix recoveryPrefix code with
  | none => .error (.crypto "recovery code must start with hsync1:")
  | some encoded =>
      match Base64.decode encoded with
      | none => .error (.crypto "recovery code is not valid base64url")
      | some decoded =>
          if size : decoded.length = masterKeyLength + 4 then
            let key := decoded.take masterKeyLength
            let checksum := decoded.drop masterKeyLength
            let expected := sha256 key
            if checksum = expected.val.take 4 then
              .ok ⟨key, by simp [key, size, masterKeyLength]⟩
            else .error (.crypto "recovery code checksum did not match")
          else .error (.crypto "recovery code has an invalid length")

end MasterKey

theorem stripPrefix_eq_some {start text rest : String} :
    stripPrefix start text = some rest ↔ text = start ++ rest := by
  rw [stripPrefix]
  constructor
  · intro found
    split_ifs at found with before
    obtain ⟨rest', same⟩ := before
    rw [← same, List.drop_left, Option.some.injEq] at found
    rw [← found, ← String.toList_inj, String.toList_append, String.toList_ofList, same]
  · rintro rfl
    rw [String.toList_append, if_pos (List.prefix_append _ _), List.drop_left, String.ofList_toList]

namespace MasterKey
variable {sha256 : Bytes → Digest}

/-- The bytes that a code encodes split into the key and its checksum in one way only. -/
theorem split_eq (key : MasterKey) {decoded : Bytes} (size : decoded.length = masterKeyLength + 4) :
    (decoded.take masterKeyLength = key.bytes ∧
      decoded.drop masterKeyLength = (sha256 (decoded.take masterKeyLength)).val.take 4) ↔
      decoded = key.bytes ++ (sha256 key.bytes).val.take 4 := by
  constructor
  · rintro ⟨front, back⟩
    rw [← List.take_append_drop masterKeyLength decoded, back, front]
  · rintro rfl
    have front : (key.bytes ++ (sha256 key.bytes).val.take 4).take masterKeyLength = key.bytes :=
      List.take_left' key.size
    refine ⟨front, ?_⟩
    rw [front]
    exact List.drop_left' key.size

/-- A recovery code is accepted with a key exactly when it is the code of that key. -/
theorem from_recovery_code_eq_ok (sha256 : Bytes → Digest) (code : String) (key : MasterKey) :
    fromRecoveryCode sha256 code = .ok key ↔ code = recoveryCode sha256 key := by
  constructor
  · intro accepted
    unfold fromRecoveryCode at accepted
    split at accepted
    · cases accepted
    next encoded stripped =>
    split at accepted
    · cases accepted
    next decoded found =>
    dsimp only at accepted
    split_ifs at accepted with size checked
    obtain rfl := stripPrefix_eq_some.mp stripped
    obtain rfl := Base64.decode_eq_some.mp found
    cases accepted
    have whole := (split_eq ⟨decoded.take masterKeyLength, by
      simp [size, masterKeyLength]⟩ size).mp ⟨rfl, checked⟩
    rw [recoveryCode, ← whole]
  · rintro rfl
    have stripped : stripPrefix recoveryPrefix (recoveryCode sha256 key) = some _ :=
      stripPrefix_eq_some.mpr rfl
    have found := Base64.decode_eq_some.mpr (rfl (a := Base64.encode (key.bytes ++
      (sha256 key.bytes).val.take 4)))
    have size : (key.bytes ++ (sha256 key.bytes).val.take 4).length = masterKeyLength + 4 := by
      rw [List.length_append, List.length_take, key.size, (sha256 key.bytes).property]
      rfl
    obtain ⟨front, back⟩ := (split_eq key size).mpr rfl
    rw [front] at back
    simp only [fromRecoveryCode, stripped, found, dif_pos size, front, if_pos back]

end MasterKey
end HeliumSync
