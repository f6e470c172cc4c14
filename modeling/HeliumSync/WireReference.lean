import HeliumSync.ApiClient
import HeliumSync.Reference
import HeliumSync.Stored

/-! Primitives whose ciphertexts are bytes, for running the exchange: they encrypt nothing, and nothing
that they encrypt is opened. -/
namespace HeliumSync.Reference

def wire : Primitives Bytes where
  hkdf
  aeadEncrypt _ _ _ plain :=
    if plainLength plain ≤ longest then some (List.replicate (plainLength plain + 16) 0) else none
  aeadDecrypt _ _ _ _ := none
  cipherLength := List.length
  longest
  sha256 := primitives.sha256
  formatRfc3339 := primitives.formatRfc3339
  parseRfc3339 := primitives.parseRfc3339
  formatUuid
  parseUuid
  writeJson
  parseForeign _ := .error "expected value"

theorem wire_textual : wire.Textual where
  uuid uuid := by
    simp only [wire]
    exact parseUuid_formatUuid uuid
  named uuid := by
    simp only [wire]
    intro same
    have digits := congrArg String.toList same
    rw [formatUuid, String.toList_ofList, dashed] at digits
    exact List.cons_ne_nil _ _ (List.append_eq_nil_iff.mp digits).2
  written {time text} formatted := by
    obtain ⟨rfl, rfl⟩ := formatRfc3339_ok formatted
    simp only [wire, primitives, if_true]
  writable {time text} parsed := by
    simp only [wire, primitives] at parsed ⊢
    split_ifs at parsed
    cases parsed
    exact ⟨epoch, if_pos rfl⟩
  cipherLength _ := rfl

theorem length_le_flatMap {α β : Type} {f : α → List β} (some : ∀ a, f a ≠ []) (values : List α) :
    values.length ≤ (values.flatMap f).length := by
  induction values with
  | nil => exact Nat.le_refl 0
  | cons a values ih =>
      have first := List.length_pos_iff.mpr (some a)
      rw [List.flatMap_cons, List.length_append, List.length_cons]
      omega

theorem length_le_quote (text : String) : text.length ≤ (quote text).length := by
  have escaped : ∀ c, escape c ≠ [] := by
    intro c
    rw [escape]
    split_ifs <;> exact List.cons_ne_nil _ _
  have longer := length_le_flatMap escaped text.toList
  rw [String.length_toList] at longer
  rw [quote, List.length_append, List.length_cons]
  omega

mutual
theorem strings_render : ∀ (value : Json), ∀ text ∈ value.strings, text.length ≤ (render value).length
  | .null, _, member | .bool _, _, member | .int _, _, member | .float _, _, member => by
      cases member
  | .str value, text, member => by
      cases List.mem_singleton.mp member
      rw [render]
      exact length_le_quote value
  | .arr [], text, member => by cases member
  | .arr (item :: items), text, member => by
      rw [render, List.length_append, List.length_cons]
      rcases List.mem_append.mp member with first | later
      · have := strings_render item text first
        omega
      · have := strings_renderItems items text later
        omega
  | .obj [], text, member => by cases member
  | .obj ((key, value) :: entries), text, member => by
      rw [render]
      simp only [List.length_append, List.length_cons]
      rcases List.mem_append.mp member with first | later
      · have := strings_render value text first
        omega
      · have := strings_renderEntries entries text later
        omega

theorem strings_renderItems : ∀ (items : List Json), ∀ text ∈ Json.stringsItems items,
    text.length ≤ (renderItems items).length
  | [], text, member => by cases member
  | item :: items, text, member => by
      rw [renderItems, List.length_append, List.length_cons]
      rcases List.mem_append.mp member with first | later
      · have := strings_render item text first
        omega
      · have := strings_renderItems items text later
        omega

theorem strings_renderEntries : ∀ (entries : List (String × Json)),
    ∀ text ∈ Json.stringsEntries entries, text.length ≤ (renderEntries entries).length
  | [], text, member => by cases member
  | (key, value) :: entries, text, member => by
      rw [renderEntries]
      simp only [List.length_append, List.length_cons]
      rcases List.mem_append.mp member with first | later
      · have := strings_render value text first
        omega
      · have := strings_renderEntries entries text later
        omega
end

theorem wire_spells : wire.Spells := by
  intro body document parsed text member
  cases body with
  | json value =>
      cases parsed
      exact Nat.le_trans (strings_render document text member)
        (length_le_flatMap (fun _ => String.utf8EncodeChar_ne_nil) _)
  | text | binary => cases parsed

def axum : Axum where
  jsonContentType value := value = "application/json"
  rejection _ := "length limit exceeded"
  mistyped _ := false

def token : String := "0123456789abcdef0123456789abcdef"

def app : AppState := ⟨tokenDigest wire token⟩

def client : ApiClient := ⟨token, some protocolMax⟩

def moment : Moment := ⟨⟨0⟩, "request", false, []⟩

end HeliumSync.Reference
