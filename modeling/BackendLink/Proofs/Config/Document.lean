import BackendLink.Proofs.Config.Record
import Mathlib

/-!
# Documents that say the same

What a configuration document means is settled by the values at the places of the eight settings.

* `Setting.of_accepted` is one setting of an accepted document, and `count_le` its known keys.
* `Rearranged` relates documents that say the same in another order, with other unknown keys.
* `ofYaml_rearranged` puts it together. It asks that aliases stand for the same in both documents:
  an alias is bound by the last anchor of its name in front of it, so entries that are moved may
  rebind it (`ofYaml_rebound`).
-/

namespace BackendLink.Yaml

/-! ## What aliases stand for -/

namespace Node

mutual

theorem anchored_ne_reference : (root : Node) → ∀ entry ∈ root.anchored, ∀ number,
    entry.2 ≠ .reference number
  | .scalar anchor tag style text => by
      intro entry member number
      simp only [Node.anchored, Option.mem_toList, Option.map_eq_some_iff] at member
      obtain ⟨n, -, rfl⟩ := member
      simp
  | .sequence anchor items => by
      intro entry member number
      rw [Node.anchored, List.mem_append] at member
      rcases member with own | inner
      · simp only [Option.mem_toList, Option.map_eq_some_iff] at own
        obtain ⟨n, -, rfl⟩ := own
        simp
      · exact anchoredItems_ne_reference items entry inner number
  | .mapping anchor entries => by
      intro entry member number
      rw [Node.anchored, List.mem_append] at member
      rcases member with own | inner
      · simp only [Option.mem_toList, Option.map_eq_some_iff] at own
        obtain ⟨n, -, rfl⟩ := own
        simp
      · exact anchoredEntries_ne_reference entries entry inner number
  | .reference _ => by simp [Node.anchored]
  | .cut => by simp [Node.anchored]

theorem anchoredItems_ne_reference : (items : List Node) →
    ∀ entry ∈ Node.anchoredItems items, ∀ number, entry.2 ≠ .reference number
  | [] => by simp [Node.anchoredItems]
  | item :: rest => by
      intro entry member number
      rw [Node.anchoredItems, List.mem_append] at member
      rcases member with first | later
      · exact anchored_ne_reference item entry first number
      · exact anchoredItems_ne_reference rest entry later number

theorem anchoredEntries_ne_reference : (entries : List (Node × Node)) →
    ∀ entry ∈ Node.anchoredEntries entries, ∀ number, entry.2 ≠ .reference number
  | [] => by simp [Node.anchoredEntries]
  | (key, value) :: rest => by
      intro entry member number
      rw [Node.anchoredEntries, List.mem_append, List.mem_append] at member
      rcases member with (first | second) | later
      · exact anchored_ne_reference key entry first number
      · exact anchored_ne_reference value entry second number
      · exact anchoredEntries_ne_reference rest entry later number

end

end Node

theorem Document.resolve_resolve (d : Document) (node : Node) :
    d.resolve (d.resolve node) = d.resolve node := by
  cases node with
  | reference number =>
      show d.resolve ((d.target number).getD .cut) = (d.target number).getD .cut
      cases found : d.target number with
      | none => rfl
      | some node =>
          unfold target at found
          split at found
          · cases found
          · rename_i root _
            obtain ⟨entry, first, rfl⟩ := Option.map_eq_some_iff.mp found
            have member := List.mem_reverse.mp (List.mem_of_find?_eq_some first)
            have other := root.anchored_ne_reference entry member
            simp only [Option.getD_some]
            cases same : entry.2 with
            | reference number => exact absurd same (other number)
            | _ => rfl
  | _ => rfl

end BackendLink.Yaml

namespace BackendLink.Config
open Yaml

/-! ## The settings -/

/-- Values of settings that are written alike: the number of an anchor in front is no part of it. -/
def settingLike : Likeness := fun d d' node node' =>
  match d.resolve node, d'.resolve node' with
  | .scalar _ tag style text, .scalar _ tag' style' text' =>
    tag = tag' ∧ style = style' ∧ text = text'
  | _, _ => False

/-- What is read of a setting is decided by the scalar that its value stands for. -/
def IsSetting {β : Type} (read : Reader β) : Prop :=
  ∃ value : Option (List Char) → Style → List Char → Option β,
    ∀ {d : Document} {path : Path} {node : Node} {x : β}, read d path node = .ok x ↔
      ∃ anchor tag style text, d.resolve node = .scalar anchor tag style text ∧
        value tag style text = some x

theorem IsSetting.steady {β : Type} {read : Reader β} (setting : IsSetting read) :
    Steady read := by
  obtain ⟨value, decides⟩ := setting
  intro d path other node x given
  rw [decides] at given ⊢
  exact given

theorem IsSetting.respects {β : Type} {read : Reader β} (setting : IsSetting read) :
    Respects settingLike read := by
  obtain ⟨value, decides⟩ := setting
  intro d d' path node node' x alike given
  obtain ⟨anchor, tag, style, text, resolved, meant⟩ := decides.mp given
  refine ⟨path, decides.mpr ?_⟩
  unfold settingLike at alike
  rw [resolved] at alike
  split at alike
  · rename_i first second
    cases first
    obtain ⟨rfl, rfl, rfl⟩ := alike
    exact ⟨_, _, _, _, second, meant⟩
  · cases alike

theorem isSetting_readText (expected : String) : IsSetting (readText expected) := by
  refine ⟨fun _ _ text => some (String.ofList text), ?_⟩
  intro d path node x
  unfold readText
  cases resolved : d.resolve node <;> simp

theorem isSetting_readPath : IsSetting readPath := by
  refine ⟨fun _ _ text => some (.ofString (String.ofList text)), ?_⟩
  intro d path node x
  unfold readPath readText
  cases resolved : d.resolve node <;> simp [Except.map]

theorem isSetting_readFlag : IsSetting readFlag := by
  refine ⟨fun tag style text =>
    if readsByText CoreTag.boolean tag style then bool? text else none, ?_⟩
  intro d path node x
  unfold readFlag
  cases resolved : d.resolve node with
  | scalar anchor tag style text =>
      dsimp only
      split <;> simp_all
  | _ => simp

theorem isSetting_readSeconds : IsSetting readSeconds := by
  refine ⟨fun tag style text =>
    (if readsByText CoreTag.integer tag style then unsigned? Text.greatest64 text else none).map
      UInt64.ofNat, ?_⟩
  intro d path node x
  unfold readSeconds
  cases resolved : d.resolve node with
  | scalar anchor tag style text =>
      dsimp only
      split <;> simp_all
  | _ => simp

theorem readOptional_ok_iff {β : Type} {read : Reader β} {d : Document} {path : Path}
    {node : Node} {x : Option β} : readOptional read d path node = .ok x ↔
      isAbsent (d.resolve node) = .ok true ∧ x = none ∨
      isAbsent (d.resolve node) = .ok false ∧
        ∃ y, read d path (d.resolve node) = .ok y ∧ some y = x := by
  unfold readOptional
  simp only [bind, Except.bind]
  cases isAbsent (d.resolve node) with
  | error e => simp
  | ok absent =>
      cases absent with
      | false => simp [map_eq_ok_iff]
      | true => simp [eq_comm]

theorem isAbsent_scalar (anchor : Option Nat) (tag : Option (List Char)) (style : Style)
    (text : List Char) :
    isAbsent (.scalar anchor tag style text) = isAbsent (.scalar none tag style text) := by
  cases style <;> rfl

theorem isSetting_readOptional {β : Type} {read : Reader β} (setting : IsSetting read) :
    IsSetting (readOptional read) := by
  obtain ⟨value, decides⟩ := setting
  refine ⟨fun tag style text =>
    match isAbsent (.scalar none tag style text) with
    | .error _ => none
    | .ok true => some none
    | .ok false => (value tag style text).map some, ?_⟩
  intro d path node x
  rw [readOptional_ok_iff]
  simp only [decides, d.resolve_resolve]
  cases d.resolve node with
  | scalar anchor tag style text =>
      rw [isAbsent_scalar anchor]
      cases absent : isAbsent (.scalar none tag style text) with
      | error e => simp [absent]
      | ok none? => cases none? <;> simp [absent, eq_comm]
  | _ => simp [isAbsent]

/-! ## The four structs -/

def backendKeys : List (String × Likeness) :=
  [("addr", settingLike), ("connect_timeout_secs", settingLike)]

def sslKeys : List (String × Likeness) :=
  [("enable", settingLike), ("ca_cert_path", settingLike), ("client_cert_path", settingLike),
    ("client_key_path", settingLike), ("insecure", settingLike), ("server_name", settingLike)]

def credentialsKeys : List (String × Likeness) := [("ssl", structLike sslKeys)]

def configKeys : List (String × Likeness) :=
  [("backend", structLike backendKeys), ("credentials", structLike credentialsKeys)]

theorem backend_knows : backendRecord.Knows backendKeys where
  steady := by
    simp only [Record.IsSteady, backendRecord, List.forall_mem_cons]
    exact ⟨Field.of_steady (isSetting_readText _).steady,
      Field.of_steady isSetting_readSeconds.steady, by simp⟩
  apart := by
    simp only [Record.IsApart, backendRecord, List.pairwise_cons, List.forall_mem_cons]
    exact ⟨⟨Field.of_apart fun _ _ _ => rfl, by simp⟩, by simp⟩
  nodup := by decide
  fields := .cons ⟨rfl, Field.of_respects (isSetting_readText _).respects⟩
    (.cons ⟨rfl, Field.of_respects isSetting_readSeconds.respects⟩ .nil)

theorem ssl_knows : sslRecord.Knows sslKeys where
  steady := by
    simp only [Record.IsSteady, sslRecord, List.forall_mem_cons]
    exact ⟨Field.of_steady isSetting_readFlag.steady,
      Field.of_steady (isSetting_readOptional isSetting_readPath).steady,
      Field.of_steady (isSetting_readOptional isSetting_readPath).steady,
      Field.of_steady (isSetting_readOptional isSetting_readPath).steady,
      Field.of_steady isSetting_readFlag.steady,
      Field.of_steady (isSetting_readOptional (isSetting_readText _)).steady, by simp⟩
  apart := by
    simp only [Record.IsApart, sslRecord, List.pairwise_cons, List.forall_mem_cons]
    refine ⟨⟨?_, ?_, ?_, ?_, ?_, by simp⟩, ⟨?_, ?_, ?_, ?_, by simp⟩, ⟨?_, ?_, ?_, by simp⟩,
      ⟨?_, ?_, by simp⟩, ⟨?_, by simp⟩, by simp⟩
    all_goals exact Field.of_apart fun _ _ _ => rfl
  nodup := by decide
  fields := .cons ⟨rfl, Field.of_respects isSetting_readFlag.respects⟩
    (.cons ⟨rfl, Field.of_respects (isSetting_readOptional isSetting_readPath).respects⟩
    (.cons ⟨rfl, Field.of_respects (isSetting_readOptional isSetting_readPath).respects⟩
    (.cons ⟨rfl, Field.of_respects (isSetting_readOptional isSetting_readPath).respects⟩
    (.cons ⟨rfl, Field.of_respects isSetting_readFlag.respects⟩
    (.cons ⟨rfl, Field.of_respects (isSetting_readOptional (isSetting_readText _)).respects⟩
      .nil)))))

theorem credentials_knows : credentialsRecord.Knows credentialsKeys where
  steady := by
    simp only [Record.IsSteady, credentialsRecord, List.forall_mem_cons]
    exact ⟨Field.of_steady (Record.steady_read ssl_knows.steady _), by simp⟩
  apart := List.pairwise_singleton _ _
  nodup := by decide
  fields := .cons ⟨rfl, Field.of_respects (Record.respects_read ssl_knows _)⟩ .nil

theorem config_knows : configRecord.Knows configKeys where
  steady := by
    simp only [Record.IsSteady, configRecord, List.forall_mem_cons]
    exact ⟨Field.of_steady (Record.steady_read backend_knows.steady _),
      Field.of_steady (Record.steady_read credentials_knows.steady _), by simp⟩
  apart := by
    simp only [Record.IsApart, configRecord, List.pairwise_cons, List.forall_mem_cons]
    exact ⟨⟨Field.of_apart fun _ _ _ => rfl, by simp⟩, by simp⟩
  nodup := by decide
  fields := .cons ⟨rfl, Field.of_respects (Record.respects_read backend_knows _)⟩
    (.cons ⟨rfl, Field.of_respects (Record.respects_read credentials_knows _)⟩ .nil)

/-! ## Places of a document -/

/-- The entries of the root; a text of nothing but comments has none. -/
def rootEntries (d : Document) : Option (List (Node × Node)) :=
  match d.root with
  | none => some []
  | some root => entries? d root

/-- The entries of the struct at a path, if every step of it is there and is a struct. -/
def entriesAt (d : Document) (path : Path) : Option (List (Node × Node)) :=
  path.foldl (fun entries key => (entries.bind (valueOf? d key)).bind (entries? d)) (rootEntries d)

theorem ofDocument_ok_iff {d : Document} {config : Config} :
    ofDocument d = .ok config ↔ d.complete = true ∧
      ∃ entries, rootEntries d = some entries ∧ configRecord.Accepts d [] entries {} config := by
  unfold ofDocument rootEntries
  simp only [bind, Except.bind]
  cases d.root with
  | none =>
      simp only [Option.some.injEq, exists_eq_left']
      constructor
      · intro given
        split at given
        · rename_i complete
          cases given
          exact ⟨complete, .nil⟩
        · cases given
      · rintro ⟨complete, ⟨⟩⟩
        simp [complete]
  | some root =>
      simp only [← @Record.read_ok_iff _ _ _ _ config_knows.steady _ []]
      cases configRecord.read {} d [] root with
      | error e => simp
      | ok c =>
          by_cases complete : d.complete <;> simp [complete]


theorem credentials_tracks_ssl :
    credentialsRecord.Tracks "ssl" (sslRecord.read {}) CredentialsConfig.ssl :=
  .of rfl (fun _ _ => rfl) (by simp [credentialsRecord, Field.of])

section Accepted

variable {d : Document} {config : Config}

theorem root_stands (accepted : ofDocument d = .ok config) :
    Stands configRecord {} d (entriesAt d []) config := by
  obtain ⟨-, entries, root, accepts⟩ := ofDocument_ok_iff.mp accepted
  rw [entriesAt, List.foldl_nil, root]
  exact accepts

theorem backend_stands (accepted : ofDocument d = .ok config) :
    Stands backendRecord {} d (entriesAt d ["backend"]) config.backend := by
  refine (root_stands accepted).struct backend_knows.steady rfl (.of rfl (fun _ _ => rfl) ?_)
  simp only [configRecord, List.forall_mem_cons]
  exact ⟨absurd rfl, fun _ => Field.of_keeps fun _ _ => rfl, by simp⟩

theorem credentials_stands (accepted : ofDocument d = .ok config) :
    Stands credentialsRecord {} d (entriesAt d ["credentials"]) config.credentials := by
  refine (root_stands accepted).struct credentials_knows.steady rfl (.of rfl (fun _ _ => rfl) ?_)
  simp only [configRecord, List.forall_mem_cons]
  exact ⟨fun _ => Field.of_keeps fun _ _ => rfl, absurd rfl, by simp⟩

theorem ssl_stands (accepted : ofDocument d = .ok config) :
    Stands sslRecord {} d (entriesAt d ["credentials", "ssl"]) config.credentials.ssl :=
  (credentials_stands accepted).struct ssl_knows.steady rfl credentials_tracks_ssl

end Accepted

/-! ## The settings and their places -/

inductive Setting
  | addr
  | connectTimeoutSecs
  | enable
  | caCertPath
  | clientCertPath
  | clientKeyPath
  | insecure
  | serverName

namespace Setting

abbrev Value : Setting → Type
  | addr => String
  | connectTimeoutSecs => UInt64
  | enable | insecure => Bool
  | caCertPath | clientCertPath | clientKeyPath => Option OsText
  | serverName => Option String

/-- The struct that it is a setting of. -/
abbrev Owner : Setting → Type
  | addr | connectTimeoutSecs => BackendConfig
  | _ => SslConfig

def owner : (s : Setting) → Config → s.Owner
  | addr, c | connectTimeoutSecs, c => c.backend
  | enable, c | caCertPath, c | clientCertPath, c | clientKeyPath, c | insecure, c
  | serverName, c => c.credentials.ssl

def get : (s : Setting) → s.Owner → s.Value
  | addr => BackendConfig.addr
  | connectTimeoutSecs => BackendConfig.connectTimeoutSecs
  | enable => SslConfig.enable
  | caCertPath => SslConfig.caCertPath
  | clientCertPath => SslConfig.clientCertPath
  | clientKeyPath => SslConfig.clientKeyPath
  | insecure => SslConfig.insecure
  | serverName => SslConfig.serverName

def of (s : Setting) (config : Config) : s.Value := s.get (s.owner config)

def record : (s : Setting) → Record s.Owner
  | addr | connectTimeoutSecs => backendRecord
  | enable | caCertPath | clientCertPath | clientKeyPath | insecure | serverName => sslRecord

/-- The path to the struct. -/
def struct : Setting → Path
  | addr | connectTimeoutSecs => ["backend"]
  | _ => ["credentials", "ssl"]

def key : Setting → String
  | addr => "addr"
  | connectTimeoutSecs => "connect_timeout_secs"
  | enable => "enable"
  | caCertPath => "ca_cert_path"
  | clientCertPath => "client_cert_path"
  | clientKeyPath => "client_key_path"
  | insecure => "insecure"
  | serverName => "server_name"

def read : (s : Setting) → Reader s.Value
  | addr => readText "a string"
  | connectTimeoutSecs => readSeconds
  | enable | insecure => readFlag
  | caCertPath | clientCertPath | clientKeyPath => readOptional readPath
  | serverName => readOptional (readText "a string")

theorem isSetting_read (s : Setting) : IsSetting s.read := by
  cases s with
  | addr => exact isSetting_readText _
  | connectTimeoutSecs => exact isSetting_readSeconds
  | enable | insecure => exact isSetting_readFlag
  | caCertPath | clientCertPath | clientKeyPath => exact isSetting_readOptional isSetting_readPath
  | serverName => exact isSetting_readOptional (isSetting_readText _)

/-- The value at the place of a setting, if it is written. -/
def value? (s : Setting) (d : Document) : Option Node :=
  (entriesAt d s.struct).bind (valueOf? d s.key)

theorem tracks (s : Setting) : s.record.Tracks s.key s.read s.get := by
  cases s
  case addr | connectTimeoutSecs =>
    refine .of rfl (fun _ _ => rfl) ?_
    simp only [record, backendRecord, List.forall_mem_cons]
    refine ⟨?_, ?_, by simp⟩
    all_goals first | exact absurd rfl | exact fun _ => Field.of_keeps fun _ _ => rfl
  all_goals
    refine .of rfl (fun _ _ => rfl) ?_
    simp only [record, sslRecord, List.forall_mem_cons]
    refine ⟨?_, ?_, ?_, ?_, ?_, ?_, by simp⟩
    all_goals first | exact absurd rfl | exact fun _ => Field.of_keeps fun _ _ => rfl

theorem stands (s : Setting) {d : Document} {config : Config}
    (accepted : ofDocument d = .ok config) :
    Stands s.record (s.owner {}) d (entriesAt d s.struct) (s.owner config) := by
  cases s
  case addr | connectTimeoutSecs => exact backend_stands accepted
  all_goals exact ssl_stands accepted

theorem of_accepted (s : Setting) {d : Document} {config : Config}
    (accepted : ofDocument d = .ok config) :
    match s.value? d with
    | none => s.of config = s.of {}
    | some value => ∃ path, s.read d path value = .ok (s.of config) :=
  (s.stands accepted).setting s.tracks

theorem of_alike (s : Setting) {d d' : Document} {config config' : Config} {value value' : Node}
    (accepted : ofDocument d = .ok config) (accepted' : ofDocument d' = .ok config')
    (here : s.value? d = some value) (here' : s.value? d' = some value')
    (alike : settingLike d d' value value') : s.of config = s.of config' := by
  have given := s.of_accepted accepted
  have given' := s.of_accepted accepted'
  rw [here] at given
  rw [here'] at given'
  obtain ⟨path, read⟩ := given
  obtain ⟨path', read'⟩ := given'
  obtain ⟨other, again⟩ := s.isSetting_read.respects alike read
  exact Except.ok.inj (again.symm.trans (s.isSetting_read.steady other read'))

end Setting

/-! ## Rearranged documents -/

/-- The second document can be read to its end, and its structs say what those of the first do: with
their entries in any order, the known ones alike and others taken out and put in. -/
def Rearranged (d d' : Document) : Prop :=
  d'.complete = true ∧ ∃ entries entries', rootEntries d = some entries ∧
    rootEntries d' = some entries' ∧ Reordered d d' configKeys entries entries'

theorem Rearranged.accepted {d d' : Document} {config : Config} (rearranged : Rearranged d d')
    (accepted : ofDocument d = .ok config) : ofDocument d' = .ok config := by
  obtain ⟨complete, entries, entries', root, root', order, perm, aligned⟩ := rearranged
  obtain ⟨-, found, same, accepts⟩ := ofDocument_ok_iff.mp accepted
  rw [root, Option.some.injEq] at same
  subst same
  exact ofDocument_ok_iff.mpr ⟨complete, entries', root',
    (accepts.perm config_knows.apart perm).align config_knows aligned⟩

/-- The known keys of the struct at a path. -/
def keysAt : Path → List String
  | [] => configKeys.map Prod.fst
  | ["backend"] => backendKeys.map Prod.fst
  | ["credentials"] => credentialsKeys.map Prod.fst
  | ["credentials", "ssl"] => sslKeys.map Prod.fst
  | _ => []

theorem count_le {d : Document} {config : Config} (accepted : ofDocument d = .ok config)
    {path : Path} {entries : List (Node × Node)} {name : String}
    (here : entriesAt d path = some entries) (known : name ∈ keysAt path) :
    entries.countP (fun entry => keyName? d entry.1 = some name) ≤ 1 := by
  unfold keysAt at known
  split at known
  · exact (here ▸ root_stands accepted).count_le config_knows known
  · exact (here ▸ backend_stands accepted).count_le backend_knows known
  · exact (here ▸ credentials_stands accepted).count_le credentials_knows known
  · exact (here ▸ ssl_stands accepted).count_le ssl_knows known
  · cases known

abbrev documentOf (text : String) : Document := Yaml.read text.toList

theorem ofYaml_rearranged (text : String) :
    (∀ text' config, Rearranged (documentOf text) (documentOf text') →
      ofYaml text = .ok config → ofYaml text' = .ok config) ∧
    (∀ (s : Setting) text' config config' value value', ofYaml text = .ok config →
      ofYaml text' = .ok config' → s.value? (documentOf text) = some value →
      s.value? (documentOf text') = some value' →
      settingLike (documentOf text) (documentOf text') value value' → s.of config = s.of config') ∧
    (∀ (s : Setting) config, ofYaml text = .ok config → s.value? (documentOf text) = none →
      s.of config = s.of {}) ∧
    ∀ path entries name, entriesAt (documentOf text) path = some entries → name ∈ keysAt path →
      1 < entries.countP (fun entry => keyName? (documentOf text) entry.1 = some name) →
      ∀ config, ofYaml text ≠ .ok config := by
  refine ⟨fun text' config rearranged => rearranged.accepted, ?_, ?_, ?_⟩
  · intro s text' config config' value value' accepted accepted' here here' alike
    exact s.of_alike accepted accepted' here here' alike
  · intro s config accepted absent
    simpa [absent] using s.of_accepted accepted
  · intro path entries name here known twice config accepted
    exact absurd (count_le accepted here known) (Nat.not_le.mpr twice)

private def plain (text : String) : Node := .scalar none none .plain text.toList

private theorem keyName?_plain (d : Document) (text : String) :
    keyName? d (plain text) = some text := by
  simp [keyName?, plain, Document.resolve]

theorem ofYaml_rearranged_anchored :
    let config : Config := { backend.addr := "n" }
    ofYaml "{backend: {addr: n}, credentials: {x: [y]}}" = .ok config ∧
      Setting.serverName.of config = Setting.serverName.of {} ∧
      ∀ config, ofYaml "{credentials: {}, credentials: {}}" ≠ .ok config := by
  intro config
  have here : documentOf "{credentials: {}, backend: {addr: &a n}}" = ⟨some (.mapping none
      [(plain "credentials", .mapping none []), (plain "backend", .mapping none
        [(plain "addr", .scalar (some 0) none .plain ['n'])])]), true⟩ := by cbv
  have there : documentOf "{backend: {addr: n}, credentials: {x: [y]}}" = ⟨some (.mapping none
      [(plain "backend", .mapping none [(plain "addr", plain "n")]),
        (plain "credentials", .mapping none [(plain "x", .sequence none [plain "y"])])]),
      true⟩ := by cbv
  have twice : documentOf "{credentials: {}, credentials: {}}" = ⟨some (.mapping none
      [(plain "credentials", .mapping none []), (plain "credentials", .mapping none [])]),
      true⟩ := by cbv
  have accepted : ofYaml "{credentials: {}, backend: {addr: &a n}}" = .ok config := by
    change ofDocument (documentOf _) = _
    rw [here]
    rfl
  have rearranged : Rearranged (documentOf "{credentials: {}, backend: {addr: &a n}}")
      (documentOf "{backend: {addr: n}, credentials: {x: [y]}}") := by
    rw [here, there]
    have backend (d d' : Document) : structLike backendKeys d d'
        (.mapping none [(plain "addr", .scalar (some 0) none .plain ['n'])])
        (.mapping none [(plain "addr", plain "n")]) :=
      ⟨_, _, rfl, rfl, _, .refl _, .setting (.head _) (keyName?_plain _ _) (keyName?_plain _ _)
        ⟨rfl, rfl, rfl⟩ .nil⟩
    have credentials (d d' : Document) : structLike credentialsKeys d d' (.mapping none [])
        (.mapping none [(plain "x", .sequence none [plain "y"])]) :=
      ⟨_, _, rfl, rfl, _, .refl _, .added (keyName?_plain _ _) (by decide) rfl .nil⟩
    exact ⟨rfl, _, _, rfl, rfl, _, .swap _ _ _,
      .setting (.head _) (keyName?_plain _ _) (keyName?_plain _ _) (backend _ _)
        (.setting (.tail _ (.head _)) (keyName?_plain _ _) (keyName?_plain _ _)
          (credentials _ _) .nil)⟩
  refine ⟨(ofYaml_rearranged _).1 _ config rearranged accepted,
    (ofYaml_rearranged _).2.2.1 .serverName config accepted (by rw [here]; rfl), ?_⟩
  refine (ofYaml_rearranged _).2.2.2 [] _ "credentials" (by rw [twice]; rfl) (by decide) ?_
  rw [twice]
  decide

/-- Three paths of a client, the last an alias. -/
def aliased (first second : String) : String :=
  "credentials:\n ssl:\n  " ++ first ++ "\n  " ++ second ++ "\n  client_key_path: *a"

theorem ofYaml_rebound :
    (ofYaml (aliased "ca_cert_path: &a p" "client_cert_path: &a q")).toOption.map
        (fun config => config.credentials.ssl.clientKeyPath) = some (some (.ofString "q")) ∧
      (ofYaml (aliased "client_cert_path: &a q" "ca_cert_path: &a p")).toOption.map
        (fun config => config.credentials.ssl.clientKeyPath) = some (some (.ofString "p")) := by
  constructor <;> decide +kernel

end BackendLink.Config
