import HeliumSync.Client
import HeliumSync.Framing

/-! The contexts that are authenticated or that keys are derived for: no two have the same bytes. -/
namespace HeliumSync

/-- What `associated_data` encodes, its integers of the source's types. -/
structure ObjectContext where
  metadata : ObjectMetadata
  envelopeVersion : Nat
  u16 : metadata.protocol < 65536
  u8 : envelopeVersion < 256

/-- The bases that are protected. -/
inductive BaseKind where
  | bookmarks
  | extensions
  deriving DecidableEq

def BaseKind.nameSpace : BaseKind → String
  | bookmarks => bookmarkNamespace
  | extensions => extensionManifestNamespace

/-- The purpose that a base of a profile is protected for. -/
def basePurpose (kind : BaseKind) (profileDirectory : String) : String :=
  s!"{kind.nameSpace}:{profileDirectory}"

section
variable {C : Type} {P : Primitives C}

theorem basePurpose_inj {kind kind' : BaseKind} {directory directory' : String}
    (same : basePurpose kind directory = basePurpose kind' directory') :
    kind = kind' ∧ directory = directory' := by
  have texts := congrArg String.toList same
  cases kind <;> cases kind' <;>
    simp [basePurpose, BaseKind.nameSpace, bookmarkNamespace, extensionManifestNamespace, toString]
      at texts
  · exact ⟨rfl, String.toList_inj.mp texts⟩
  · exact ⟨rfl, String.toList_inj.mp texts⟩

/-- The whole of what is authenticated, its versions included. -/
theorem ObjectContext.inj {a b : ObjectContext} {aad : Bytes}
    (bound : associatedData P a.metadata a.envelopeVersion = .ok aad)
    (bound' : associatedData P b.metadata b.envelopeVersion = .ok aad) :
    a.metadata.protocol = b.metadata.protocol ∧ a.metadata.objectId = b.metadata.objectId ∧
      a.metadata.nameSpace = b.metadata.nameSpace ∧ a.metadata.deviceId = b.metadata.deviceId ∧
      a.metadata.revision = b.metadata.revision ∧
      P.formatRfc3339 a.metadata.modifiedAt = P.formatRfc3339 b.metadata.modifiedAt ∧
      a.envelopeVersion = b.envelopeVersion := by
  obtain ⟨time, formatted, space, short, rfl⟩ := associatedData_ok.mp bound
  obtain ⟨time', formatted', space', short', same⟩ := associatedData_ok.mp bound'
  have uuid_short (uuid : BitVec 128) : (uuidBytes uuid).length < 4294967296 := by
    simp [uuidBytes]
  have revision_small (revision : U64) : revision.val < 256 ^ 8 := revision.isLt
  have rest := List.append_cancel_left same
  obtain ⟨protocols, rest⟩ := beBytes_append_inj a.u16 b.u16 rest
  obtain ⟨objects, rest⟩ := frame_append_inj (uuid_short _) (uuid_short _) rest
  obtain ⟨spaces, rest⟩ := frame_append_inj space space' rest
  obtain ⟨devices, rest⟩ := frame_append_inj (uuid_short _) (uuid_short _) rest
  obtain ⟨revisions, rest⟩ := beBytes_append_inj (revision_small _) (revision_small _) rest
  obtain ⟨times, versions⟩ := frame_append_inj short short' rest
  refine ⟨protocols, congrArg ObjectId.mk (uuidBytes_inj objects), textBytes_inj.mp spaces,
    congrArg DeviceId.mk (uuidBytes_inj devices), Fin.ext revisions, ?_,
    beBytes_inj a.u8 b.u8 versions⟩
  rw [formatted, formatted', textBytes_inj.mp times]

theorem keyInfo_ok {nameSpace : String} {keyVersion : Nat} {info : Bytes} :
    keyInfo nameSpace keyVersion = .ok info ↔ (textBytes nameSpace).length < 4294967296 ∧
      info = textBytes "helium-sync/object-key/" ++
        (frame (textBytes nameSpace) ++ beBytes 4 keyVersion) := by
  constructor
  · intro derived
    obtain ⟨_, field, same⟩ := Fallible.bind_ok_iff.mp derived
    obtain ⟨short, rfl⟩ := appendField_ok.mp field
    cases same
    exact ⟨short, List.append_assoc ..⟩
  · rintro ⟨short, rfl⟩
    have field := appendField_ok.mpr ⟨short, rfl (a := textBytes "helium-sync/object-key/" ++
      frame (textBytes nameSpace))⟩
    simp only [keyInfo, field, bind, Except.bind, pure, Except.pure, List.append_assoc]

theorem keyInfo_inj {nameSpace nameSpace' : String} {version version' : Fin 4294967296}
    {info : Bytes} (derived : keyInfo nameSpace version = .ok info)
    (derived' : keyInfo nameSpace' version' = .ok info) :
    nameSpace = nameSpace' ∧ version = version' := by
  obtain ⟨short, rfl⟩ := keyInfo_ok.mp derived
  obtain ⟨short', same⟩ := keyInfo_ok.mp derived'
  obtain ⟨spaces, versions⟩ := frame_append_inj short short' (List.append_cancel_left same)
  exact ⟨textBytes_inj.mp spaces, Fin.ext (beBytes_inj version.isLt version'.isLt versions)⟩

/-- A field at the end of a fixed text. -/
theorem appendField_inj {start a b : Bytes} {result : Bytes} (added : appendField start a = .ok result)
    (added' : appendField start b = .ok result) : a = b := by
  obtain ⟨short, rfl⟩ := appendField_ok.mp added
  obtain ⟨short', same⟩ := appendField_ok.mp added'
  have fields : frame a ++ [] = frame b ++ [] := by
    rw [List.append_nil, List.append_nil]
    exact List.append_cancel_left same
  exact (frame_append_inj short short' fields).1

end

/-- The bytes that an object's key or envelope is bound to. -/
def ObjectEncoding {C : Type} (P : Primitives C) (bytes : Bytes) : Prop :=
  (∃ metadata version, associatedData P metadata version = .ok bytes) ∨
    ∃ nameSpace version, keyInfo nameSpace version = .ok bytes

/-- The bytes that a local state's key or envelope is bound to. -/
def LocalStateEncoding (bytes : Bytes) : Prop :=
  ∃ purpose, localStateAad purpose = .ok bytes ∨ localStateKeyInfo purpose = .ok bytes

section
variable {C : Type} {P : Primitives C} {bytes : Bytes}

theorem textBytes_eq (text : String) : textBytes text = text.toUTF8.data.toList := by
  rw [textBytes, ByteArray.toList, toList_loop]
  simp

theorem byte_of_start {start rest : Bytes} {i : Nat} {byte : UInt8} (here : start[i]? = some byte) :
    (start ++ rest)[i]? = some byte := by
  rw [List.getElem?_append_left (List.getElem?_eq_some_iff.mp here).1]
  exact here

/-- What comes after `helium-sync/` in the encoding of an object. -/
theorem ObjectEncoding.thirteenth (encoding : ObjectEncoding P bytes) :
    bytes[12]? = some 97 ∨ bytes[12]? = some 111 := by
  rcases encoding with ⟨metadata, version, bound⟩ | ⟨nameSpace, version, derived⟩
  · obtain ⟨_, _, _, _, rfl⟩ := associatedData_ok.mp bound
    exact .inl (byte_of_start (by rw [textBytes_eq]; decide))
  · obtain ⟨_, rfl⟩ := keyInfo_ok.mp derived
    exact .inr (byte_of_start (by rw [textBytes_eq]; decide))

theorem LocalStateEncoding.thirteenth (encoding : LocalStateEncoding bytes) :
    bytes[12]? = some 108 := by
  rcases encoding with ⟨purpose, bound | derived⟩
  · obtain ⟨_, rfl⟩ := appendField_ok.mp bound
    exact byte_of_start (by rw [textBytes_eq]; decide)
  · obtain ⟨_, rfl⟩ := appendField_ok.mp derived
    exact byte_of_start (by rw [textBytes_eq]; decide)

/-- Authenticated metadata is encoded unambiguously. -/
theorem contexts_unambiguous (P : Primitives C) :
    (∀ (a b : ObjectContext) aad, associatedData P a.metadata a.envelopeVersion = .ok aad →
      associatedData P b.metadata b.envelopeVersion = .ok aad →
      a.metadata.protocol = b.metadata.protocol ∧ a.metadata.objectId = b.metadata.objectId ∧
        a.metadata.nameSpace = b.metadata.nameSpace ∧ a.metadata.deviceId = b.metadata.deviceId ∧
        a.metadata.revision = b.metadata.revision ∧
        P.formatRfc3339 a.metadata.modifiedAt = P.formatRfc3339 b.metadata.modifiedAt ∧
        a.envelopeVersion = b.envelopeVersion) ∧
    (∀ nameSpace nameSpace' (version version' : Fin 4294967296) info,
      keyInfo nameSpace version = .ok info → keyInfo nameSpace' version' = .ok info →
      nameSpace = nameSpace' ∧ version = version') ∧
    (∀ purpose purpose' aad, localStateAad purpose = .ok aad → localStateAad purpose' = .ok aad →
      purpose = purpose') ∧
    (∀ purpose purpose' info, localStateKeyInfo purpose = .ok info →
      localStateKeyInfo purpose' = .ok info → purpose = purpose') ∧
    (∀ kind kind' directory directory', basePurpose kind directory = basePurpose kind' directory' →
      kind = kind' ∧ directory = directory') ∧
    ∀ bytes, ObjectEncoding P bytes → ¬ LocalStateEncoding bytes := by
  refine ⟨fun a b aad => ObjectContext.inj, fun _ _ _ _ _ => keyInfo_inj,
    fun _ _ _ bound bound' => textBytes_inj.mp (appendField_inj bound bound'),
    fun _ _ _ derived derived' => textBytes_inj.mp (appendField_inj derived derived'),
    fun _ _ _ _ => basePurpose_inj, fun bytes object state => ?_⟩
  have local' := state.thirteenth
  rcases object.thirteenth with first | first
  · cases first.symm.trans local'
  · cases first.symm.trans local'

end
end HeliumSync
