import Skimasque.Library.Address
import Skimasque.Library.Json
import Skimasque.Library.Lines
import Skimasque.Library.Path
import Skimasque.Library.Result

/-! Running a command inside the sandbox runtime, with its only way out being the proxy of `exec`. -/

set_option autoImplicit false

namespace Skimasque.Cli.Sandbox
open Library Library.Address

def scrubbedEnv : List String :=
  ["HTTP_PROXY", "http_proxy", "HTTPS_PROXY", "https_proxy", "ALL_PROXY", "all_proxy", "NO_PROXY", "no_proxy",
    "SKIMASQUE_TOKEN", "SKIMASQUE_TOKEN_FILE", "SKIMASQUE_OIDC_TOKEN"]

def probeEscaped : String := "connected"
def probeBlocked : String := "blocked"

/-- Every top-level domain at once, or all of one. -/
def tooBroad (domain : String) : Bool :=
  domain == "*" || ((Text.stripPrefix "*." domain).map (fun rest => !Text.contains rest '.')).getD false

def checkAllowDomain (raw : String) : Except String String :=
  let domain := Text.trim raw
  if Text.isEmpty domain then .error "an allowed domain cannot be empty"
  else if tooBroad domain then
    .error ("\"" ++ domain ++ "\" is too broad: the sandbox runtime refuses a bare \"*\" or a whole " ++
      "top-level domain. Name the domains the agent needs, e.g. \"*.acme.dev\"; the " ++
      "gateway's policy still decides each connection")
  else if Text.containsText domain "://" || Text.contains domain '/' || domain.toList.any Text.isWhitespace then
    .error ("\"" ++ domain ++ "\" is not a host pattern: give a host such as \"api.acme.dev\", " ++
      "\"*.acme.dev\" or \"api.acme.dev:443\", without a scheme or path")
  else .ok domain

/-- A domain that the command line took for `--allow-domain`. -/
structure AllowDomain where
  domain : String
  accepted : ∃ raw, checkAllowDomain raw = .ok domain

/-! ## The settings document -/

def needsDomains : String :=
  "--sandbox needs at least one --allow-domain: the sandbox runtime allows no " ++
    "network access until domains are named, and it will not accept \"*\""

/-- The loop over `deny_read`. -/
def deny (denied : List Json) : List String → List Json
  | [] => denied
  | path :: rest =>
    if denied.any (fun entry => entry.asStr == some path) then deny denied rest
    else deny (denied ++ [.string path]) rest

def parentProxy (parent : SocketAddr) : Json :=
  .object [("http", .string ("http://" ++ parent.text)), ("https", .string ("http://" ++ parent.text))]

/-- The object that an entry has to be, under a message for when it is not. -/
def objectOr (message : String) (value : Option Json) : Except String Json.Entries :=
  match value.bind Json.asObject with
  | some entries => .ok entries
  | none => .error message

/-- What the sandbox runtime insists on, where the user's own rules leave it out. -/
def filesystemDefaults (filesystem : Json.Entries) : Json.Entries :=
  let filesystem := Json.orInsert "allowWrite" (.array [.string "."]) filesystem
  let filesystem := Json.orInsert "denyWrite" (.array []) filesystem
  Json.orInsert "denyRead" (.array []) filesystem

def networkFor (allow : List String) (parent : SocketAddr) (network : Json.Entries) : Json.Entries :=
  let network := Json.orInsert "deniedDomains" (.array []) network
  let network := Json.set "allowedDomains" (.array (allow.map .string)) network
  Json.set "parentProxy" (parentProxy parent) network

def settings (base : Option Json) (allow : List String) (parent : SocketAddr) (denyRead : List String) :
    Except String Json := do
  let object ← objectOr "the sandbox settings file must be a JSON object" (some (base.getD (.object [])))
  if allow.isEmpty then .error needsDomains
  else
    let object := Json.orInsert "filesystem" (.object []) object
    let filesystem ← objectOr "\"filesystem\" in the sandbox settings must be an object" (Json.get "filesystem" object)
    let filesystem := filesystemDefaults filesystem
    match (Json.get "denyRead" filesystem).bind Json.asArray with
    | none => .error "\"filesystem.denyRead\" must be a list"
    | some denied =>
      let filesystem := Json.set "denyRead" (.array (deny denied denyRead)) filesystem
      let object := Json.set "filesystem" (.object filesystem) object
      let object := Json.orInsert "network" (.object []) object
      let network ← objectOr "\"network\" in the sandbox settings must be an object" (Json.get "network" object)
      return .object (Json.set "network" (.object (networkFor allow parent network)) object)

/-! ## Running it -/

/-- `srt --settings <file> -- <command...>`, after the program itself. -/
def argv (file : String) (command : List String) : List String := ["--settings", file, "--"] ++ command

/-- The last line of a text that is not blank. -/
def lastLine (stdout : String) : String :=
  (((Lines.splitLf stdout.toList).map String.ofList).reverse.find? fun line => !Text.isEmpty (Text.trim line)).getD ""

def judgeProbe (stdout : String) (success : Bool) : Except String Unit :=
  if Text.trim stdout = probeBlocked ∧ success then .ok ()
  else if Text.trim stdout = probeEscaped then
    .error ("the sandbox did not stop a direct connection to this host's own network address, " ++
      "so it is not confining the command. Refusing to start the agent")
  else
    .error ("could not confirm that the sandbox blocks direct connections (the check did not " ++
      "run to completion inside it). Refusing to start the agent")

/-- A name with no directory and no extension, with each extension of `pathext` in each directory of `path`. -/
def resolveProgram (program : String) (path pathext : Option String) (isFile : String → Bool) : Option String :=
  if (Path.components program).length ≠ 1 ∨ (Path.extension program).isSome then none
  else do
    let extensions := (Text.split ';' (pathext.getD ".COM;.EXE;.BAT;.CMD")).filter (!Text.isEmpty ·)
    let dirs := (Text.split ':' (← path)).filter (!Text.isEmpty ·)
    (dirs.flatMap fun dir => extensions.map fun extension => Path.join dir (program ++ extension)).find? isFile

/-- Where the sandbox runtime is, a bare name resolved through `PATH`. -/
def locate (program : String) (path pathext : Option String) (isFile : String → Bool) : Option String :=
  if 1 < (Path.components program).length then (some program).filter isFile
  else
    match resolveProgram program path pathext isFile with
    | some found => some found
    | none => do ((Text.split ':' (← path)).map (Path.join · program)).find? isFile

/-! ## What the settings say -/

theorem objectOr_eq_ok_iff {message : String} {value : Option Json} {entries : Json.Entries} :
    objectOr message value = .ok entries ↔ value = some (.object entries) := by
  unfold objectOr
  cases value with
  | none => simp
  | some value => cases value <;> simp [Json.asObject]

theorem asArray_eq_some_iff {value : Option Json} {items : List Json} :
    value.bind Json.asArray = some items ↔ value = some (.array items) := by
  cases value with
  | none => simp
  | some value => cases value <;> simp [Json.asArray]

/-- The settings that are made of the parts of the user's own. -/
def document (allow : List String) (parent : SocketAddr) (denyRead : List String)
    (object filesystem network : Json.Entries) (denied : List Json) : Json :=
  .object (Json.set "network" (.object (networkFor allow parent network))
    (Json.orInsert "network" (.object [])
      (Json.set "filesystem" (.object (Json.set "denyRead" (.array (deny denied denyRead)) (filesystemDefaults filesystem)))
        (Json.orInsert "filesystem" (.object []) object))))

/-- The parts of the user's own settings, with what stands for the ones that are not there. -/
structure Parts (base : Option Json) (object filesystem network : Json.Entries) (denied : List Json) : Prop where
  isObject : base.getD (.object []) = .object object
  isFilesystem : (Json.get "filesystem" object).getD (.object []) = .object filesystem
  isDenied : (Json.get "denyRead" filesystem).getD (.array []) = .array denied
  isNetwork : (Json.get "network" object).getD (.object []) = .object network

theorem get_filesystemDefaults_denyRead (filesystem : Json.Entries) :
    Json.get "denyRead" (filesystemDefaults filesystem) = some ((Json.get "denyRead" filesystem).getD (.array [])) := by
  unfold filesystemDefaults
  rw [Json.get_orInsert_self, Json.get_orInsert_ne (by decide), Json.get_orInsert_ne (by decide)]

theorem settings_eq_ok_iff {base : Option Json} {allow : List String} {parent : SocketAddr} {denyRead : List String}
    {doc : Json} : settings base allow parent denyRead = .ok doc ↔ allow ≠ [] ∧
      ∃ object filesystem network denied, Parts base object filesystem network denied ∧
        doc = document allow parent denyRead object filesystem network denied := by
  have network (object : Json.Entries) (value : Json) :
      Json.get "network" (Json.set "filesystem" value (Json.orInsert "filesystem" (.object []) object)) =
        Json.get "network" object := by
    rw [Json.get_set_ne (by decide), Json.get_orInsert_ne (by decide)]
  unfold settings
  simp only [Result.bind_eq_ok_iff, objectOr_eq_ok_iff, Option.some.injEq]
  constructor
  · intro ⟨object, isObject, made⟩
    split at made
    · cases made
    rename_i filled
    refine ⟨by simpa using filled, ?_⟩
    simp only [Result.bind_eq_ok_iff, objectOr_eq_ok_iff, Json.get_orInsert_self, Option.some.injEq] at made
    obtain ⟨filesystem, isFilesystem, made⟩ := made
    split at made
    · cases made
    rename_i denied isDenied
    rw [asArray_eq_some_iff, get_filesystemDefaults_denyRead, Option.some.injEq] at isDenied
    simp only [Result.bind_eq_ok_iff, objectOr_eq_ok_iff, network, Option.some.injEq] at made
    obtain ⟨network, isNetwork, made⟩ := made
    cases made
    exact ⟨object, filesystem, network, denied, ⟨isObject, isFilesystem, isDenied, isNetwork⟩, rfl⟩
  · intro ⟨filled, object, filesystem, network', denied, parts, made⟩
    refine ⟨object, parts.isObject, ?_⟩
    rw [if_neg (by simpa using filled)]
    simp only [Result.bind_eq_ok_iff, objectOr_eq_ok_iff, Json.get_orInsert_self, Option.some.injEq]
    refine ⟨filesystem, parts.isFilesystem, ?_⟩
    have isDenied : (Json.get "denyRead" (filesystemDefaults filesystem)).bind Json.asArray = some denied := by
      rw [asArray_eq_some_iff, get_filesystemDefaults_denyRead, parts.isDenied]
    rw [isDenied]
    simp only [Result.bind_eq_ok_iff, objectOr_eq_ok_iff, network, Option.some.injEq]
    exact ⟨network', parts.isNetwork, made ▸ rfl⟩

theorem denied_kept (denied : List Json) (paths : List String) : denied <+: deny denied paths := by
  fun_induction deny denied paths with
  | case1 denied => exact List.prefix_rfl
  | case2 denied path rest there ih => exact ih
  | case3 denied path rest absent ih => exact (List.prefix_append ..).trans ih

theorem mem_deny {denied : List Json} {paths : List String} {path : String} (member : path ∈ paths) :
    Json.string path ∈ deny denied paths := by
  fun_induction deny denied paths with
  | case1 denied => cases member
  | case2 denied first rest there ih =>
    cases member with
    | head =>
      obtain ⟨entry, inside, same⟩ := List.any_eq_true.mp there
      have text : entry = .string path := by
        cases entry <;> simp [Json.asStr] at same ⊢
        exact same
      exact (denied_kept denied rest).mem (text ▸ inside)
    | tail _ later => exact ih later
  | case3 denied first rest absent ih =>
    cases member with
    | head => exact (denied_kept _ rest).mem (by simp)
    | tail _ later => exact ih later

/-- What is denied already is not denied again. -/
theorem deny_eq_self {denied : List Json} {paths : List String} (there : ∀ path ∈ paths, Json.string path ∈ denied) :
    deny denied paths = denied := by
  induction paths with
  | nil => rfl
  | cons path rest ih =>
    have inside : denied.any (fun entry => entry.asStr == some path) = true :=
      List.any_eq_true.mpr ⟨_, there path (List.mem_cons_self ..), by simp [Json.asStr]⟩
    rw [deny, if_pos inside, ih fun path later => there path (List.mem_cons_of_mem _ later)]

/-- What the settings fix, and what they leave to the user's own. -/
structure Confines (base : Option Json) (allow : List String) (parent : SocketAddr) (denyRead : List String)
    (doc : Json) : Prop where
  allowed : doc.at? ["network", "allowedDomains"] = some (.array (allow.map .string))
  proxied : doc.at? ["network", "parentProxy"] = some (parentProxy parent)
  denied : ∃ list, doc.at? ["filesystem", "denyRead"] = some (.array list) ∧ (∀ path ∈ denyRead, .string path ∈ list) ∧
    ∀ own, base.bind (Json.at? ["filesystem", "denyRead"]) = some (.array own) → own <+: list
  allowWrite : doc.at? ["filesystem", "allowWrite"] =
    some ((base.bind (Json.at? ["filesystem", "allowWrite"])).getD (.array [.string "."]))
  denyWrite : doc.at? ["filesystem", "denyWrite"] =
    some ((base.bind (Json.at? ["filesystem", "denyWrite"])).getD (.array []))
  deniedDomains : doc.at? ["network", "deniedDomains"] =
    some ((base.bind (Json.at? ["network", "deniedDomains"])).getD (.array []))
  kept : ∀ name, name ∉ ["filesystem", "network"] → doc.at? [name] = base.bind (Json.at? [name])
  keptFilesystem : ∀ name, name ∉ ["allowWrite", "denyWrite", "denyRead"] →
    doc.at? ["filesystem", name] = base.bind (Json.at? ["filesystem", name])
  keptNetwork : ∀ name, name ∉ ["deniedDomains", "allowedDomains", "parentProxy"] →
    doc.at? ["network", name] = base.bind (Json.at? ["network", name])
  /-- Made again from themselves, the settings are the same. -/
  settled : settings (some doc) allow parent denyRead = .ok doc

theorem at?_cons {name : String} {rest : List String} {entries : Json.Entries} :
    (Json.object entries).at? (name :: rest) = (Json.get name entries).bind (Json.at? rest) := rfl

section
variable {base : Option Json} {object entries : Json.Entries}

theorem at?_base (isObject : base.getD (.object []) = .object object) (name : String) (rest : List String) :
    base.bind (Json.at? (name :: rest)) = (Json.get name object).bind (Json.at? rest) := by
  cases base with
  | none =>
    cases isObject
    rfl
  | some base =>
    cases isObject
    rfl

theorem at?_name (isObject : base.getD (.object []) = .object object) (name : String) :
    base.bind (Json.at? [name]) = Json.get name object := by
  simp [at?_base isObject, Json.at?]

/-- An entry of a part, whether or not the part is there. -/
theorem at?_part {part : String} (isObject : base.getD (.object []) = .object object)
    (isPart : (Json.get part object).getD (.object []) = .object entries) (name : String) :
    base.bind (Json.at? [part, name]) = Json.get name entries := by
  rw [at?_base isObject]
  cases found : Json.get part object with
  | none =>
    rw [found] at isPart
    cases isPart
    rfl
  | some value =>
    rw [found] at isPart
    cases isPart
    simp [Json.at?]

end

section
variable {allow : List String} {parent : SocketAddr} {denyRead : List String}
  {object filesystem network : Json.Entries} {denied : List Json}

theorem document_filesystem (rest : List String) :
    (document allow parent denyRead object filesystem network denied).at? ("filesystem" :: rest) =
      (Json.object (Json.set "denyRead" (.array (deny denied denyRead)) (filesystemDefaults filesystem))).at? rest := by
  rw [document, at?_cons, Json.get_set_ne (by decide), Json.get_orInsert_ne (by decide), Json.get_set_self]
  rfl

theorem document_network (rest : List String) :
    (document allow parent denyRead object filesystem network denied).at? ("network" :: rest) =
      (Json.object (networkFor allow parent network)).at? rest := by
  rw [document, at?_cons, Json.get_set_self]
  rfl

theorem get_filesystemDefaults {name : String} (other : name ∉ ["allowWrite", "denyWrite", "denyRead"]) :
    Json.get name (filesystemDefaults filesystem) = Json.get name filesystem := by
  simp only [List.mem_cons, List.not_mem_nil, or_false, not_or] at other
  unfold filesystemDefaults
  rw [Json.get_orInsert_ne other.2.2, Json.get_orInsert_ne other.2.1, Json.get_orInsert_ne other.1]

theorem get_filesystemDefaults_isSome {name : String} (own : name ∈ ["allowWrite", "denyWrite", "denyRead"]) :
    (Json.get name (filesystemDefaults filesystem)).isSome := by
  unfold filesystemDefaults
  simp only [List.mem_cons, List.not_mem_nil, or_false] at own
  rcases own with rfl | rfl | rfl
  · rw [Json.get_orInsert_ne (by decide), Json.get_orInsert_ne (by decide), Json.get_orInsert_self]
    rfl
  · rw [Json.get_orInsert_ne (by decide), Json.get_orInsert_self]
    rfl
  · rw [Json.get_orInsert_self]
    rfl

/-- Defaults are filled in once. -/
theorem filesystemDefaults_settled (value : Json) :
    filesystemDefaults (Json.set "denyRead" value (filesystemDefaults filesystem)) =
      Json.set "denyRead" value (filesystemDefaults filesystem) := by
  have there : ∀ name ∈ ["allowWrite", "denyWrite", "denyRead"],
      (Json.get name (Json.set "denyRead" value (filesystemDefaults filesystem))).isSome := by
    intro name own
    by_cases last : name = "denyRead"
    · rw [last, Json.get_set_self]
      rfl
    · rw [Json.get_set_ne last]
      exact get_filesystemDefaults_isSome own
  generalize Json.set "denyRead" value (filesystemDefaults filesystem) = entries at there
  unfold filesystemDefaults
  dsimp only
  rw [Json.orInsert_get (there "allowWrite" (by simp)), Json.orInsert_get (there "denyWrite" (by simp)),
    Json.orInsert_get (there "denyRead" (by simp))]

theorem networkFor_settled : networkFor allow parent (networkFor allow parent network) = networkFor allow parent network := by
  have proxied : Json.get "parentProxy" (networkFor allow parent network) = some (parentProxy parent) :=
    Json.get_set_self
  have allowed : Json.get "allowedDomains" (networkFor allow parent network) = some (.array (allow.map .string)) := by
    rw [networkFor, Json.get_set_ne (by decide), Json.get_set_self]
  have denied : (Json.get "deniedDomains" (networkFor allow parent network)).isSome := by
    rw [networkFor, Json.get_set_ne (by decide), Json.get_set_ne (by decide), Json.get_orInsert_self]
    rfl
  generalize networkFor allow parent network = entries at proxied allowed denied
  rw [networkFor, Json.orInsert_get denied, Json.set_get allowed, Json.set_get proxied]

/-- Settings with all their parts in place are made of themselves. -/
theorem document_of_settled (isFilesystem : Json.get "filesystem" object = some (.object filesystem))
    (isDenied : Json.get "denyRead" filesystem = some (.array denied))
    (isNetwork : Json.get "network" object = some (.object network)) (defaults : filesystemDefaults filesystem = filesystem)
    (there : deny denied denyRead = denied) (fixed : networkFor allow parent network = network) :
    document allow parent denyRead object filesystem network denied = .object object := by
  have filled : (Json.get "filesystem" object).isSome := by rw [isFilesystem]; rfl
  have connected : (Json.get "network" object).isSome := by rw [isNetwork]; rfl
  rw [document, defaults, there, fixed, Json.set_get isDenied, Json.orInsert_get filled, Json.set_get isFilesystem,
    Json.orInsert_get connected, Json.set_get isNetwork]

theorem settings_document (filled : allow ≠ []) :
    settings (some (document allow parent denyRead object filesystem network denied)) allow parent denyRead =
      .ok (document allow parent denyRead object filesystem network denied) := by
  have isFilesystem := @document_filesystem allow parent denyRead object filesystem network denied []
  have isNetwork := @document_network allow parent denyRead object filesystem network denied []
  simp only [document, at?_cons, Json.at?, Option.bind_fun_some] at isFilesystem isNetwork
  rw [document]
  generalize Json.set "network" _ _ = entries at isFilesystem isNetwork ⊢
  have isDenied : Json.get "denyRead" (Json.set "denyRead" (.array (deny denied denyRead)) (filesystemDefaults filesystem)) =
      some (.array (deny denied denyRead)) := Json.get_set_self
  refine settings_eq_ok_iff.mpr ⟨filled, entries, _, _, _, ⟨rfl, ?_, ?_, ?_⟩, Eq.symm (document_of_settled isFilesystem
    isDenied isNetwork (filesystemDefaults_settled _) (deny_eq_self fun path => mem_deny) networkFor_settled)⟩
  · rw [isFilesystem, Option.getD_some]
  · rw [isDenied, Option.getD_some]
  · rw [isNetwork, Option.getD_some]

end

theorem confines_of_settings {base : Option Json} {allow : List String} {parent : SocketAddr} {denyRead : List String}
    {doc : Json} (made : settings base allow parent denyRead = .ok doc) : Confines base allow parent denyRead doc := by
  obtain ⟨filled, object, filesystem, network, denied, parts, rfl⟩ := settings_eq_ok_iff.mp made
  constructor
  case allowed =>
    rw [document_network, at?_cons, networkFor, Json.get_set_ne (by decide), Json.get_set_self]
    rfl
  case proxied =>
    rw [document_network, at?_cons, networkFor, Json.get_set_self]
    rfl
  case denied =>
    refine ⟨deny denied denyRead, ?_, fun path => mem_deny, fun own found => ?_⟩
    · rw [document_filesystem, at?_cons, Json.get_set_self]
      rfl
    · have same := parts.isDenied
      rw [← at?_part parts.isObject parts.isFilesystem, found] at same
      cases same
      exact denied_kept _ _
  case allowWrite =>
    rw [document_filesystem, at?_cons, Json.get_set_ne (by decide), at?_part parts.isObject parts.isFilesystem]
    unfold filesystemDefaults
    rw [Json.get_orInsert_ne (by decide), Json.get_orInsert_ne (by decide), Json.get_orInsert_self]
    rfl
  case denyWrite =>
    rw [document_filesystem, at?_cons, Json.get_set_ne (by decide), at?_part parts.isObject parts.isFilesystem]
    unfold filesystemDefaults
    rw [Json.get_orInsert_ne (by decide), Json.get_orInsert_self, Json.get_orInsert_ne (by decide)]
    rfl
  case deniedDomains =>
    rw [document_network, at?_cons, networkFor, Json.get_set_ne (by decide), Json.get_set_ne (by decide),
      Json.get_orInsert_self, at?_part parts.isObject parts.isNetwork]
    rfl
  case kept =>
    intro name other
    simp only [List.mem_cons, List.not_mem_nil, or_false, not_or] at other
    rw [document, at?_cons, Json.get_set_ne other.2, Json.get_orInsert_ne other.2, Json.get_set_ne other.1,
      Json.get_orInsert_ne other.1, at?_base parts.isObject]
  case keptFilesystem =>
    intro name other
    rw [document_filesystem, at?_cons, Json.get_set_ne (by grind), get_filesystemDefaults other, at?_part parts.isObject parts.isFilesystem]
    simp [Json.at?]
  case keptNetwork =>
    intro name other
    simp only [List.mem_cons, List.not_mem_nil, or_false, not_or] at other
    rw [document_network, at?_cons, networkFor, Json.get_set_ne other.2.2, Json.get_set_ne other.2.1,
      Json.get_orInsert_ne other.1, at?_part parts.isObject parts.isNetwork]
    simp [Json.at?]
  case settled => exact settings_document filled

/-- The user's own settings have an object or a list wherever `exec` writes into one. -/
structure Acceptable (base : Option Json) : Prop where
  whole : ∀ value, base = some value → ∃ entries, value = .object entries
  filesystem : ∀ value, base.bind (Json.at? ["filesystem"]) = some value → ∃ entries, value = .object entries
  denyRead : ∀ value, base.bind (Json.at? ["filesystem", "denyRead"]) = some value → ∃ list, value = .array list
  network : ∀ value, base.bind (Json.at? ["network"]) = some value → ∃ entries, value = .object entries

theorem getD_of_found {α : Type} {found : Option α} {default value : α} (same : found.getD default = value) {other : α}
    (there : found = some other) : other = value := by
  rw [there] at same
  exact same

theorem Parts.acceptable {base : Option Json} {object filesystem network : Json.Entries} {denied : List Json}
    (parts : Parts base object filesystem network denied) : Acceptable base where
  whole value there := ⟨object, getD_of_found parts.isObject there⟩
  filesystem value there := by
    rw [at?_name parts.isObject] at there
    exact ⟨filesystem, getD_of_found parts.isFilesystem there⟩
  denyRead value there := by
    rw [at?_part parts.isObject parts.isFilesystem] at there
    exact ⟨denied, getD_of_found parts.isDenied there⟩
  network value there := by
    rw [at?_name parts.isObject] at there
    exact ⟨network, getD_of_found parts.isNetwork there⟩

theorem Acceptable.parts {base : Option Json} (acceptable : Acceptable base) :
    ∃ object filesystem network denied, Parts base object filesystem network denied := by
  have part {found : Option Json} (each : ∀ value, found = some value → ∃ entries, value = Json.object entries) :
      ∃ entries, found.getD (.object []) = .object entries := by
    cases found with
    | none => exact ⟨[], rfl⟩
    | some value => exact each value rfl
  obtain ⟨object, isObject⟩ := part acceptable.whole
  obtain ⟨filesystem, isFilesystem⟩ := part (at?_name isObject "filesystem" ▸ acceptable.filesystem)
  obtain ⟨network, isNetwork⟩ := part (at?_name isObject "network" ▸ acceptable.network)
  have list := at?_part isObject isFilesystem "denyRead" ▸ acceptable.denyRead
  cases found : Json.get "denyRead" filesystem with
  | none => exact ⟨object, filesystem, network, [], isObject, isFilesystem, by rw [found]; rfl, isNetwork⟩
  | some value =>
    obtain ⟨denied, rfl⟩ := list value found
    exact ⟨object, filesystem, network, denied, isObject, isFilesystem, by rw [found]; rfl, isNetwork⟩

/-- Settings are made of whatever has objects and lists in the places that are written, for a domain at least;
and they fix the allowlist, the parent proxy and the hidden paths whatever was there before. -/
theorem settings_confine (base : Option Json) (allow : List String) (parent : SocketAddr) (denyRead : List String) :
    ((∃ doc, settings base allow parent denyRead = .ok doc) ↔ allow ≠ [] ∧ Acceptable base) ∧
      ∀ doc, settings base allow parent denyRead = .ok doc → Confines base allow parent denyRead doc := by
  constructor
  · constructor
    · intro ⟨doc, made⟩
      obtain ⟨filled, object, filesystem, network, denied, parts, -⟩ := settings_eq_ok_iff.mp made
      exact ⟨filled, parts.acceptable⟩
    · intro ⟨filled, acceptable⟩
      obtain ⟨object, filesystem, network, denied, parts⟩ := acceptable.parts
      exact ⟨_, settings_eq_ok_iff.mpr ⟨filled, object, filesystem, network, denied, parts, rfl⟩⟩
  · intro doc made
    exact confines_of_settings made

/-- Settings with rules of their own and a proxy of their own. -/
def corporate : Json :=
  .object [("filesystem", .object [("denyRead", .array [.string "~/.ssh"])]),
    ("network", .object [("parentProxy", .object [("http", .string "http://corp:3128")])]), ("theme", .string "dark")]

theorem settings_confine_corporate : ∃ doc,
    settings (some corporate) ["*.acme.dev"] ⟨.v4 0x7f000001, 41234⟩ ["/home/u/.config/skimasque"] = .ok doc ∧
      Confines (some corporate) ["*.acme.dev"] ⟨.v4 0x7f000001, 41234⟩ ["/home/u/.config/skimasque"] doc :=
  ⟨_, rfl, (settings_confine (some corporate) ["*.acme.dev"] ⟨.v4 0x7f000001, 41234⟩ ["/home/u/.config/skimasque"]).2 _ rfl⟩

end Skimasque.Cli.Sandbox
