import HeliumSync.World

/-! Primitives that compute, for running the model: an ideal cipher, hexadecimal UUIDs, compact
JSON, and a clock that knows one moment. Then a small world of two devices. -/
namespace HeliumSync.Reference

instance neZero_two : NeZero 2 := ⟨by decide⟩

/-- A ciphertext that only its key, nonce and associated data open. -/
structure Sealed where
  key : Bytes
  nonce : Bytes
  aad : Bytes
  plain : Plaintext
  deriving DecidableEq

def hexDigit (n : Nat) : Char := "0123456789abcdef".toList.getD n '0'

def hexValue (c : Char) : Option Nat :=
  if 48 ≤ c.toNat ∧ c.toNat ≤ 57 then some (c.toNat - 48)
  else if 97 ≤ c.toNat ∧ c.toNat ≤ 102 then some (c.toNat - 87)
  else none

def hexDigits : (width n : Nat) → List Char
  | 0, _ => []
  | width + 1, n => hexDigits width (n / 16) ++ [hexDigit (n % 16)]

def readHex (chars : List Char) : Option Nat :=
  chars.foldl (fun total c => total.bind fun n => (hexValue c).map (n * 16 + ·)) (some 0)

theorem hexValue_hexDigit : ∀ n < 16, hexValue (hexDigit n) = some n := by decide

theorem hexDigit_ne_dash : ∀ n < 16, hexDigit n ≠ '-' := by decide

theorem length_hexDigits (width n : Nat) : (hexDigits width n).length = width := by
  induction width generalizing n with
  | zero => rfl
  | succ width ih => simp [hexDigits, ih]

theorem readHex_hexDigits (width n : Nat) :
    readHex (hexDigits width n) = some (n % 16 ^ width) := by
  induction width generalizing n with
  | zero => simp [hexDigits, readHex, Nat.mod_one]
  | succ width ih =>
      have last := hexValue_hexDigit (n % 16) (Nat.mod_lt _ (by decide))
      have before : readHex (hexDigits width (n / 16)) = _ := ih (n / 16)
      rw [readHex] at before
      rw [readHex, hexDigits, List.foldl_append, before]
      simp only [List.foldl_cons, List.foldl_nil, Option.bind_some, last, Option.map_some]
      rw [Nat.pow_succ', Nat.mod_mul]
      congr 1
      omega

theorem ne_dash_of_mem {width n : Nat} {c : Char} (member : c ∈ hexDigits width n) : c ≠ '-' := by
  induction width generalizing n with
  | zero => simp [hexDigits] at member
  | succ width ih =>
      rcases List.mem_append.mp member with before | last
      · exact ih before
      · exact List.mem_singleton.mp last ▸ hexDigit_ne_dash _ (Nat.mod_lt _ (by decide))

/-- The digits in groups of these sizes, the last one open. -/
def dashed : List Nat → List Char → List Char
  | [], digits => digits
  | size :: sizes, digits => digits.take size ++ '-' :: dashed sizes (digits.drop size)

def formatUuid (uuid : BitVec 128) : String :=
  String.ofList (dashed [8, 4, 4, 4] (hexDigits 32 uuid.toNat))

def parseUuid (text : String) : Except String (BitVec 128) :=
  let digits := text.toList.filter (· ≠ '-')
  match readHex digits with
  | some n => if digits.length = 32 then .ok (BitVec.ofNat 128 n) else .error "invalid length"
  | none => .error "invalid character"

theorem filter_dashed (sizes : List Nat) (digits : List Char) :
    (dashed sizes digits).filter (· ≠ '-') = digits.filter (· ≠ '-') := by
  induction sizes generalizing digits with
  | nil => rfl
  | cons size sizes ih =>
      rw [dashed, List.filter_append, List.filter_cons_of_neg (by simp), ih, ← List.filter_append,
        List.take_append_drop]

theorem parseUuid_formatUuid (uuid : BitVec 128) : parseUuid (formatUuid uuid) = .ok uuid := by
  have digits : (formatUuid uuid).toList.filter (· ≠ '-') = hexDigits 32 uuid.toNat := by
    rw [formatUuid, String.toList_ofList, filter_dashed]
    exact List.filter_eq_self.mpr fun c member => by simpa using ne_dash_of_mem member
  have small : uuid.toNat % 16 ^ 32 = uuid.toNat := Nat.mod_eq_of_lt uuid.isLt
  rw [parseUuid, digits, readHex_hexDigits, small, length_hexDigits]
  simp

/-- The escapes of a JSON string. -/
def escape (c : Char) : List Char :=
  if c = '"' then ['\\', '"']
  else if c = '\\' then ['\\', '\\']
  else if c.toNat = 8 then ['\\', 'b']
  else if c.toNat = 9 then ['\\', 't']
  else if c.toNat = 10 then ['\\', 'n']
  else if c.toNat = 12 then ['\\', 'f']
  else if c.toNat = 13 then ['\\', 'r']
  else if c.toNat < 32 then '\\' :: 'u' :: hexDigits 4 c.toNat
  else [c]

def quote (text : String) : List Char := '"' :: text.toList.flatMap escape ++ ['"']

mutual
/-- Compact JSON, as `serde_json::to_vec` writes it. -/
def render : Json → List Char
  | .null => "null".toList
  | .bool true => "true".toList
  | .bool false => "false".toList
  | .int value => (toString value).toList
  | .float literal => literal.toList
  | .str value => quote value
  | .arr [] => "[]".toList
  | .arr (item :: items) => '[' :: render item ++ renderItems items
  | .obj [] => "{}".toList
  | .obj ((key, value) :: entries) => '{' :: quote key ++ ':' :: render value ++ renderEntries entries

def renderItems : List Json → List Char
  | [] => [']']
  | item :: items => ',' :: render item ++ renderItems items

def renderEntries : List (String × Json) → List Char
  | [] => ['}']
  | (key, value) :: entries => ',' :: quote key ++ ':' :: render value ++ renderEntries entries
end

def writeJson (value : Json) : Bytes := (render value).flatMap String.utf8EncodeChar

/-- A key is told by everything it is derived from. -/
def hkdf (salt ikm info : Bytes) : Bytes := salt ++ ikm ++ info

/-- The longest message of XChaCha20-Poly1305. -/
def longest : Nat := 274877906880

def plainLength : Plaintext → Nat
  | .json value => (writeJson value).length
  | .text value => (textBytes value).length
  | .binary bytes => bytes.length

def epoch : String := "1970-01-01T00:00:00Z"

def primitives : Primitives Sealed where
  hkdf
  aeadEncrypt key nonce aad plain :=
    if plainLength plain ≤ longest then some ⟨key, nonce, aad, plain⟩ else none
  aeadDecrypt key nonce aad cipher :=
    if cipher.key = key ∧ cipher.nonce = nonce ∧ cipher.aad = aad then some cipher.plain else none
  cipherLength cipher := plainLength cipher.plain + 16
  longest
  sha256 bytes := String.ofList (bytes.flatMap fun byte => hexDigits 2 byte.toNat)
  formatRfc3339 time := if time = ⟨0⟩ then .ok epoch else .error "not the epoch"
  parseRfc3339 text := if text = epoch then .ok ⟨0⟩ else .error "not the epoch"
  formatUuid
  parseUuid
  writeJson
  parseForeign _ := .error "expected value"

theorem plainBytes_length (plain : Plaintext) :
    (primitives.plainBytes plain).length = plainLength plain := by cases plain <;> rfl

theorem aeadEncrypt_eq (key nonce aad : Bytes) (plain : Plaintext) :
    primitives.aeadEncrypt key nonce aad plain =
      if plainLength plain ≤ longest then some ⟨key, nonce, aad, plain⟩ else none := rfl

theorem aeadEncrypt_some {key nonce aad : Bytes} {plain : Plaintext} {cipher : Sealed}
    (encrypted : primitives.aeadEncrypt key nonce aad plain = some cipher) :
    cipher = ⟨key, nonce, aad, plain⟩ := by
  rw [aeadEncrypt_eq] at encrypted
  split at encrypted
  · exact (Option.some.inj encrypted).symm
  · cases encrypted

theorem formatRfc3339_ok {time : Timestamp} {text : String}
    (formatted : primitives.formatRfc3339 time = .ok text) : time = ⟨0⟩ ∧ text = epoch := by
  simp only [primitives] at formatted
  split at formatted
  · next same => exact ⟨same, (Except.ok.inj formatted).symm⟩
  · cases formatted

theorem primitives_lawful : primitives.Lawful where
  decrypt_encrypt encrypted := by
    cases aeadEncrypt_some encrypted
    exact if_pos ⟨rfl, rfl, rfl⟩
  encrypts key nonce aad plain := by
    rw [plainBytes_length, aeadEncrypt_eq]
    split <;> simp_all [primitives]
  encrypted_length encrypted := by
    cases aeadEncrypt_some encrypted
    rw [plainBytes_length]
    rfl
  parse_format {time text} formatted := by
    obtain ⟨rfl, rfl⟩ := formatRfc3339_ok formatted
    exact ⟨⟨0⟩, by simp [primitives], formatted⟩
  short_format {time text} formatted := by
    obtain ⟨_, rfl⟩ := formatRfc3339_ok formatted
    decide +kernel
  parse_uuid uuid := by
    simp only [primitives]
    exact parseUuid_formatUuid uuid

def masterKey : MasterKey := ⟨List.replicate 32 7, rfl⟩

def profile : DiscoveredProfile := ⟨"Default", "Personal", "/helium/Default/Bookmarks"⟩

def session (i : Fin 2) : Session := ⟨⟨masterKey, ⟨BitVec.ofNat 128 (i.val + 1)⟩⟩, "server", profile⟩

/-- The `n`th object id, drawn at the epoch. -/
def draw (n : Nat) : Sample := ⟨⟨0⟩, ⟨BitVec.ofNat 128 n⟩, List.replicate 24 0, rfl⟩

/-- Both devices are registered. -/
def server : Server Sealed where
  devices id := if id.uuid = 1 ∨ id.uuid = 2 then some ⟨"device", epoch, none⟩ else none
  objects _ := none
  changes := []
  sequence := 0

/-- The server after the first device has put a plaintext under an id. -/
def putting (server : Server Sealed) (nameSpace : String) (id : ObjectId) (base : Option U64)
    (plain : Plaintext) : Server Sealed :=
  let core := (session 0).core
  let metadata : ObjectMetadata := ⟨protocolMax, id, nameSpace, core.deviceId,
    (base.map saturatingSucc).getD 1, ⟨0⟩⟩
  match encrypt primitives masterKey metadata plain (draw 0).nonce with
  | .ok envelope =>
      match server.putObject primitives id ⟨nameSpace, base, core.deviceId, ⟨0⟩, envelope⟩ with
      | .ok (_, server) => server
      | .error _ => server
  | .error _ => server

/-- A device with this `Bookmarks` file, mapped to the object if one is given. -/
def device (file : Json) (mapping : Option ObjectMapping) : ClientDevice Sealed where
  state := { LocalState.empty with
    mappings := fun key => if key = (session 0).bookmarkKey then mapping else none }
  bookmarks := some (.json file)
  backups := []
  extensions := ([], ⟨0, 0, 0⟩)

def unchanged : Choice := .metadata ⟨0, some 0⟩ ⟨0, some 0⟩

def noExtensions : ExtensionSyncOutcome := ⟨⟨0, 0, 0⟩, none, "Extensions are already up to date."⟩

end HeliumSync.Reference
