import HeliumSync.BookmarksRestore

/-! What `create_extension_bundle` captures of a profile's directory. -/
namespace HeliumSync
open Interaction (Action)
open Files

/-- `EXTENSION_DIRECTORIES` -/
def extensionDirectories : List String :=
  ["Extensions", "Extension State", "Local Extension Settings", "Sync Extension Settings",
    "Managed Extension Settings", "Extension Rules", "Extension Scripts"]

/-- `EXTENSION_PREFERENCE_FILES` -/
def extensionPreferenceFiles : List String := ["Preferences", "Secure Preferences"]

/-- An entry of `IndexedDB` that belongs to an extension. -/
def isExtensionOrigin (name : String) : Bool := name.startsWith "chrome-extension_"

namespace Json

mutual
/-- `serde_json::Value`: every object is a sorted map that keeps the last of repeated keys. -/
def toValue : Json → Json
  | .arr items => .arr (toValues items)
  | .obj entries => .obj (Ordered.collect Prod.fst (toValueEntries entries))
  | value => value

def toValues : List Json → List Json
  | [] => []
  | item :: items => item.toValue :: toValues items

def toValueEntries : List (String × Json) → List (String × Json)
  | [] => []
  | (key, value) :: entries => (key, value.toValue) :: toValueEntries entries
end

/-- `Value::get` -/
def get (value : Json) (key : String) : Option Json :=
  match value with
  | .obj entries => (Keyed.get Prod.fst entries key).map Prod.snd
  | _ => none

end Json

/-- `u64::saturating_add` -/
def saturatingAdd (a : U64) (b : Nat) : U64 :=
  if h : a.val + b < 18446744073709551616 then ⟨a.val + b, h⟩ else ⟨18446744073709551615, by decide⟩

/-- A folder of the payload, or a file with its content. -/
abbrev PayloadEntry := Path × Option Plaintext

structure ExtensionBundle where
  payload : List PayloadEntry
  sections : List Json
  stats : ExtensionBundleStats

/-- `ExtensionArchiveMetadata` -/
structure ExtensionArchiveMetadata where
  format : String
  profileDirectory : String
  stats : ExtensionBundleStats
  deriving DecidableEq, Repr

/-- `Serialize for ExtensionArchiveMetadata` -/
def writeArchiveMetadata (metadata : ExtensionArchiveMetadata) : Json :=
  .obj [("format", .str metadata.format), ("profile_directory", .str metadata.profileDirectory),
    ("stats", writeStats metadata.stats)]

/-- `Deserialize for ExtensionArchiveMetadata` -/
def readArchiveMetadata (value : Json) : Except String ExtensionArchiveMetadata := do
  let entries ← Json.fields ["format", "profile_directory", "stats"] 3 value
  return {
    format := ← Json.required entries "format" Json.asString
    profileDirectory := ← Json.required entries "profile_directory" Json.asString
    stats := ← Json.required entries "stats" readStats }

/-- `zip_path` -/
def zipPath (p : Path) : String := "/".intercalate p

def payloadEntry : PayloadEntry → ArchiveEntry
  | (p, some content) => ⟨"payload/" ++ zipPath p, content⟩
  | (p, none) => ⟨"payload/" ++ zipPath p ++ "/", default⟩

def preferencesEntryName (fileName : String) : String :=
  s!"preferences/{fileName}.extensions.json"

/-- The archive of a bundle, in the order in which it is written. -/
def ExtensionBundle.entries (bundle : ExtensionBundle) (profileDirectory : String) :
    List ArchiveEntry :=
  bundle.payload.map payloadEntry ++
    (extensionPreferenceFiles.zip bundle.sections).map (fun (fileName, contents) =>
      ⟨preferencesEntryName fileName, .json contents⟩) ++
    [⟨"manifest.json", .json (writeArchiveMetadata
      ⟨extensionBundleFormat, profileDirectory, bundle.stats⟩)⟩]

namespace LocatedProfile
variable {C : Type} (P : Primitives C)

/-- `count_extensions` -/
def countExtensions (t : FileTree Plaintext) (home : Path) : U64 :=
  match t.resolve (home ++ ["Extensions"]) with
  | none => 0
  | some place => ((t.get place).names.filter fun name =>
      (t.look (place ++ [name]) matches some .dir)).foldl (fun count _ => saturatingAdd count 1) 0

/-- The two arms of `add_extension_tree` that write. -/
def addEntry (bundle : ExtensionBundle) : PayloadEntry → ExtensionBundle
  | (p, none) => { bundle with payload := bundle.payload ++ [(p, none)] }
  | (p, some content) => { bundle with
      payload := bundle.payload ++ [(p, some content)]
      stats := { bundle.stats with
        files := saturatingAdd bundle.stats.files 1
        bytes := saturatingAdd bundle.stats.bytes (P.plainBytes content).length } }

mutual
/-- `add_extension_tree` of what stands at a path. A directory lists its entries by name. -/
def addNode (t : FileTree Plaintext) (home relative : Path) :
    Node Plaintext → ExtensionBundle → Except String ExtensionBundle
  | .link _, bundle =>
      if (t.stat (home ++ relative)).isSome then
        .error s!"symbolic link is not allowed: {display (home ++ relative)}"
      else .ok bundle
  | .file content, bundle => .ok (addEntry P bundle (relative, some content))
  | .dir entries, bundle => addEntries t home relative entries (addEntry P bundle (relative, none))

def addEntries (t : FileTree Plaintext) (home relative : Path) :
    List (String × Node Plaintext) → ExtensionBundle → Except String ExtensionBundle
  | [], bundle => .ok bundle
  | (name, node) :: entries, bundle => do
      let bundle ← addNode t home (relative ++ [name]) node bundle
      addEntries t home relative entries bundle
end

/-- `add_extension_tree` -/
def addExtensionTree (t : FileTree Plaintext) (home relative : Path) (bundle : ExtensionBundle) :
    Except String ExtensionBundle :=
  if (t.stat (home ++ relative)).isNone then .ok bundle
  else do
    let place ← (t.place (home ++ relative)).mapError IoError.message
    match (t.get place).slot with
    | none => return bundle
    | some node => addNode P t home relative node bundle

/-- The names that `IndexedDB` lists for extensions. -/
def extensionOrigins (t : FileTree Plaintext) (root : Path) : List String :=
  match t.stat (root ++ ["IndexedDB"]), t.readDir (root ++ ["IndexedDB"]) with
  | some .dir, .ok names => names.filter isExtensionOrigin
  | _, _ => []

/-- The `extensions` section of a preference file. -/
def extensionsSection (content : Plaintext) : Except String Json := do
  let value ← P.parseJson content
  return (value.toValue.get "extensions").getD .null

/-- `read_extension_preferences` -/
def readExtensionPreferences (t : FileTree Plaintext) (p : Path) : Except String Json :=
  match t.stat p with
  | some (.file content) => extensionsSection P content
  | _ => .ok .null

/-- What the closure of `create_extension_bundle` puts together. -/
def gather (t : FileTree Plaintext) (home : Path) : Except String ExtensionBundle := do
  let start : ExtensionBundle := ⟨[], [], ⟨countExtensions t home, 0, 0⟩⟩
  let bundle ← extensionDirectories.foldlM
    (fun bundle directory => addExtensionTree P t home [directory] bundle) start
  let bundle ← (extensionOrigins t home).foldlM
    (fun bundle name => addExtensionTree P t home ["IndexedDB", name] bundle) bundle
  let sections ← extensionPreferenceFiles.mapM fun fileName =>
    readExtensionPreferences P t (home ++ [fileName])
  return { bundle with sections }

variable (Z : ZipFormat)

/-- `sha256_file` and the descriptor. -/
def describe (profile : LocatedProfile) (stats : ExtensionBundleStats) (archive : Plaintext) :
    ExtensionBundleDescriptor where
  format := extensionBundleFormat
  profileDirectory := profile.directoryName
  archiveSha256 := P.sha256 (P.plainBytes archive)
  archiveBytes := saturatingAdd 0 (P.plainBytes archive).length
  stats

/-- `create_extension_bundle` -/
def createExtensionBundle (profile : LocatedProfile) (destination : Path) :
    FileAction Plaintext ProfileError ExtensionBundleDescriptor := do
  let archiveError (details : String) := ProfileError.archive (display destination) details
  (change (.createDirAll destination.dropLast)).mapErr fun e =>
    .write (display destination.dropLast) e.message
  (change (.createNew destination)).mapErr fun e => archiveError e.message
  let _ ← survey.mapErr fun e => .read (display (profile.path ++ ["Extensions"])) e.message
  let written ← Action.outcome do
    let t ← survey.mapErr IoError.message
    let bundle ← .ofExcept (gather P t profile.path)
    let archive := Plaintext.binary (Z.pack (bundle.entries profile.directoryName))
    (change (.writeAll destination archive)).mapErr IoError.message
    (change (.syncAll destination)).mapErr IoError.message
    return bundle.stats
  match written with
  | .error details => do
      (change (.removeFile destination)).ignore
      throw (archiveError details)
  | .ok stats => do
      let archive ← (readFile destination).mapErr fun e => .read (display destination) e.message
      return profile.describe P stats archive

end LocatedProfile
end HeliumSync
