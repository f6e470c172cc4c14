import HeliumSync.Crypto
import Mathlib.Data.Nat.ModEq

/-! The byte encodings that are authenticated tell what was encoded. -/
namespace HeliumSync

theorem toList_loop (bytes : ByteArray) (i : Nat) (read : List UInt8) :
    ByteArray.toList.loop bytes i read = read.reverse ++ bytes.data.toList.drop i := by
  rw [ByteArray.toList.loop]
  split
  · next more =>
      have here : i < bytes.data.toList.length := by simpa using more
      have item : bytes.get! i = bytes.data.toList[i] := by
        change bytes.data[i]! = _
        rw [getElem!_pos bytes.data i (by simpa using here)]
        simp
      rw [toList_loop, item, List.reverse_cons, List.append_assoc, List.singleton_append,
        ← List.drop_eq_getElem_cons here]
  · next done =>
      rw [List.drop_of_length_le (by simpa using done), List.append_nil]
termination_by bytes.size - i

theorem textBytes_inj {a b : String} : textBytes a = textBytes b ↔ a = b := by
  constructor
  · intro same
    unfold textBytes ByteArray.toList at same
    rw [toList_loop, toList_loop] at same
    have data : a.toUTF8.data.toList = b.toUTF8.data.toList := by simpa using same
    have bytes : a.toUTF8 = b.toUTF8 := ByteArray.ext (Array.toList_inj.mp data)
    exact String.toByteArray_inj.mp bytes
  · intro same
    rw [same]

/-- A number is told by as many of its digits as it may have. -/
theorem mod_eq_of_digits {width n m : Nat}
    (digits : ∀ j < width, n / 256 ^ j % 256 = m / 256 ^ j % 256) :
    n % 256 ^ width = m % 256 ^ width := by
  induction width with
  | zero => simp [Nat.mod_one]
  | succ width ih =>
      have lower := ih fun j small => digits j (Nat.lt_succ_of_lt small)
      have top := digits width (Nat.lt_succ_self width)
      rw [Nat.pow_succ, Nat.mod_mul, Nat.mod_mul, lower, top]

theorem beBytes_inj {width n m : Nat} (small : n < 256 ^ width) (small' : m < 256 ^ width)
    (same : beBytes width n = beBytes width m) : n = m := by
  have digits : ∀ j < width, n / 256 ^ j % 256 = m / 256 ^ j % 256 := by
    intro j below
    have place : width - 1 - (width - 1 - j) = j := by omega
    have byte := congrArg (fun bytes => bytes[width - 1 - j]?) same
    have here : width - 1 - j < width := by omega
    simp only [beBytes, List.getElem?_map, List.getElem?_range here, Option.map_some, place,
      Option.some.injEq] at byte
    have value := congrArg UInt8.toNat byte
    simpa using value
  have equal := mod_eq_of_digits digits
  rwa [Nat.mod_eq_of_lt small, Nat.mod_eq_of_lt small'] at equal

theorem uuidBytes_inj {a b : BitVec 128} (same : uuidBytes a = uuidBytes b) : a = b := by
  have small (uuid : BitVec 128) : uuid.toNat < 256 ^ 16 := uuid.isLt
  exact BitVec.eq_of_toNat_eq (beBytes_inj (small a) (small b) same)

/-- A field under its length. -/
def frame (field : Bytes) : Bytes := beBytes 4 field.length ++ field

theorem appendField_ok {output field result : Bytes} :
    appendField output field = .ok result ↔
      field.length < 4294967296 ∧ result = output ++ frame field := by
  unfold appendField frame
  split_ifs with short
  · rw [← List.append_assoc]
    exact ⟨fun same => ⟨short, (Except.ok.inj same).symm⟩, fun same => by rw [same.2]⟩
  · exact ⟨nofun, fun same => absurd same.1 short⟩

/-- Framed fields can be told apart from what follows them. -/
theorem frame_append_inj {a b rest rest' : Bytes} (short : a.length < 4294967296)
    (short' : b.length < 4294967296) (same : frame a ++ rest = frame b ++ rest') :
    a = b ∧ rest = rest' := by
  unfold frame at same
  rw [List.append_assoc, List.append_assoc] at same
  obtain ⟨lengths, bodies⟩ := List.append_inj same (by simp)
  exact List.append_inj bodies (beBytes_inj short short' lengths)

/-- A field of fixed size and what follows it. -/
theorem beBytes_append_inj {width n m : Nat} {rest rest' : Bytes} (small : n < 256 ^ width)
    (small' : m < 256 ^ width) (same : beBytes width n ++ rest = beBytes width m ++ rest') :
    n = m ∧ rest = rest' := by
  obtain ⟨numbers, others⟩ := List.append_inj same (by simp)
  exact ⟨beBytes_inj small small' numbers, others⟩

section
variable {C : Type} {P : Primitives C}

theorem associatedData_ok {metadata : ObjectMetadata} {version : Nat} {aad : Bytes} :
    associatedData P metadata version = .ok aad ↔
      ∃ time, P.formatRfc3339 metadata.modifiedAt = .ok time ∧
        (textBytes metadata.nameSpace).length < 4294967296 ∧
        (textBytes time).length < 4294967296 ∧
        aad = textBytes "helium-sync/aad/v1" ++ (beBytes 2 metadata.protocol ++
          (frame (uuidBytes metadata.objectId.uuid) ++ (frame (textBytes metadata.nameSpace) ++
          (frame (uuidBytes metadata.deviceId.uuid) ++ (beBytes 8 metadata.revision.val ++
          (frame (textBytes time) ++ beBytes 1 version)))))) := by
  have uuid_short (uuid : BitVec 128) : (uuidBytes uuid).length < 4294967296 := by
    simp [uuidBytes]
  constructor
  · intro bound
    obtain ⟨_, first, bound⟩ := Fallible.bind_ok_iff.mp bound
    obtain ⟨_, second, bound⟩ := Fallible.bind_ok_iff.mp bound
    obtain ⟨_, third, bound⟩ := Fallible.bind_ok_iff.mp bound
    obtain ⟨time, formatted, bound⟩ := Fallible.bind_ok_iff.mp bound
    obtain ⟨_, fourth, same⟩ := Fallible.bind_ok_iff.mp bound
    obtain ⟨_, rfl⟩ := appendField_ok.mp first
    obtain ⟨space, rfl⟩ := appendField_ok.mp second
    obtain ⟨_, rfl⟩ := appendField_ok.mp third
    obtain ⟨short, rfl⟩ := appendField_ok.mp fourth
    cases same
    cases found : P.formatRfc3339 metadata.modifiedAt with
    | error e => rw [found] at formatted; cases formatted
    | ok text =>
        rw [found] at formatted
        cases formatted
        exact ⟨time, rfl, space, short, by simp only [List.append_assoc]⟩
  · rintro ⟨time, formatted, space, short, rfl⟩
    have first (output : Bytes) := appendField_ok.mpr
      ⟨uuid_short metadata.objectId.uuid, rfl (a := output ++ frame (uuidBytes metadata.objectId.uuid))⟩
    have second (output : Bytes) := appendField_ok.mpr
      ⟨space, rfl (a := output ++ frame (textBytes metadata.nameSpace))⟩
    have third (output : Bytes) := appendField_ok.mpr
      ⟨uuid_short metadata.deviceId.uuid, rfl (a := output ++ frame (uuidBytes metadata.deviceId.uuid))⟩
    have fourth (output : Bytes) := appendField_ok.mpr
      ⟨short, rfl (a := output ++ frame (textBytes time))⟩
    simp only [associatedData, first, second, third, fourth, formatted, Except.mapError, bind,
      Except.bind, pure, Except.pure, List.append_assoc]

/-- Associated data authenticates every field of the metadata, the time by its text. -/
theorem associatedData_inj {a b : ObjectMetadata} {version : Nat} {aad : Bytes}
    (bound : associatedData P a version = .ok aad) (bound' : associatedData P b version = .ok aad)
    (protocol : a.protocol = b.protocol) :
    a.objectId = b.objectId ∧ a.nameSpace = b.nameSpace ∧ a.deviceId = b.deviceId ∧
      a.revision = b.revision ∧ P.formatRfc3339 a.modifiedAt = P.formatRfc3339 b.modifiedAt := by
  obtain ⟨time, formatted, space, short, same⟩ := associatedData_ok.mp bound
  obtain ⟨time', formatted', space', short', same'⟩ := associatedData_ok.mp bound'
  rw [same'] at same
  have uuid_short (uuid : BitVec 128) : (uuidBytes uuid).length < 4294967296 := by
    simp [uuidBytes]
  have revision_small (revision : U64) : revision.val < 256 ^ 8 := revision.isLt
  have rest := List.append_cancel_left same
  rw [protocol] at rest
  have rest := List.append_cancel_left rest
  obtain ⟨objects, rest⟩ := frame_append_inj (uuid_short _) (uuid_short _) rest
  obtain ⟨spaces, rest⟩ := frame_append_inj space' space rest
  obtain ⟨devices, rest⟩ := frame_append_inj (uuid_short _) (uuid_short _) rest
  obtain ⟨revisions, rest⟩ := beBytes_append_inj (revision_small _) (revision_small _) rest
  obtain ⟨times, _⟩ := frame_append_inj short' short rest
  refine ⟨?_, (textBytes_inj.mp spaces).symm, ?_, Fin.ext revisions.symm, ?_⟩
  · exact congrArg ObjectId.mk (uuidBytes_inj objects).symm
  · exact congrArg DeviceId.mk (uuidBytes_inj devices).symm
  · rw [formatted, formatted', textBytes_inj.mp times]

end
end HeliumSync
