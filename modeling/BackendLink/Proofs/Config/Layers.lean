import BackendLink.Config.Environment
import BackendLink.Proofs.Text.Unsigned
import BackendLink.Proofs.Text.Utf8
import Mathlib

/-!
# Layers of configuration, setting by setting

What is loaded is a lower layer, the defaults or a file, over which each setting is decided by its
own variable (`layered_iff`). Loading fails exactly when a file is named that is not readable as
UTF-8 or is no configuration (`load_layered`).
-/

namespace BackendLink

/-! ## Switches -/

/-- The text is `1`, or `true` with each letter small or capital. -/
def SwitchedOn (text : String) : Prop :=
  text = "1" ∨ List.Forall₂ (fun given letter => given = letter ∨ given = letter.toUpper)
    text.toList ['t', 'r', 'u', 'e']

theorem toLower_eq_iff {c letter : Char} (small : letter.isLower) :
    c.toLower = letter ↔ c = letter ∨ c = letter.toUpper := by
  have same : letter.toLower = letter :=
    Char.toLower_eq_of_not_isUpper (Char.not_isUpper_of_isLower small)
  constructor
  · rintro rfl
    by_cases capital : c.isUpper
    · right
      rw [Char.toUpper_toLower_eq_toUpper,
        Char.toUpper_eq_of_not_isLower (Char.not_isLower_of_isUpper capital)]
    · left
      exact (Char.toLower_eq_of_not_isUpper capital).symm
  · rintro (rfl | rfl)
    · exact same
    · rw [Char.toLower_toUpper_eq_toLower, same]

theorem map_toLower_eq_iff {word : List Char} (small : ∀ letter ∈ word, letter.isLower)
    (text : List Char) :
    text.map Char.toLower = word ↔
      List.Forall₂ (fun given letter => given = letter ∨ given = letter.toUpper) text word := by
  induction word generalizing text with
  | nil => simp
  | cons letter word ih =>
      obtain ⟨first, others⟩ := List.forall_mem_cons.mp small
      cases text with
      | nil => simp
      | cons c text => simp [toLower_eq_iff first, ih others]

theorem isOn_iff (text : String) : Environment.isOn text = true ↔ SwitchedOn text := by
  have letters : "true".toList = ['t', 'r', 'u', 'e'] := rfl
  have word : String.ofList (text.toList.map Char.toLower) = "true" ↔
      text.toList.map Char.toLower = ['t', 'r', 'u', 'e'] := by
    rw [← String.toList_inj, String.toList_ofList, letters]
  have small : ∀ letter ∈ ['t', 'r', 'u', 'e'], letter.isLower := by simp
  rw [Environment.isOn, Bool.or_eq_true, beq_iff_eq, beq_iff_eq, word,
    map_toLower_eq_iff small, SwitchedOn]

/-! ## One setting -/

/-- A setting takes the value that its variable stands for; where the variable is not given or
stands for none, it stays as it is in the layer below. -/
def Decides {Value : Type} (given : Option String) (means : String → Value → Prop)
    (lower upper : Value) : Prop :=
  match given with
  | none => upper = lower
  | some text => means text upper ∨ (∀ value, ¬ means text value) ∧ upper = lower

theorem decides_iff {Value : Type} {means : String → Value → Prop} {read : String → Option Value}
    (reads : ∀ text value, means text value ↔ read text = some value) (given : Option String)
    (lower upper : Value) :
    Decides given means lower upper ↔ upper = (given.bind read).getD lower := by
  cases given with
  | none => rfl
  | some text =>
      simp only [Decides, reads, Option.bind_some]
      cases read text with
      | none => simp
      | some value => simp [eq_comm]

/-! ## All settings -/

/-- A variable with bytes that are part of no character is as if it were not set. -/
theorem Environment.text?_eq_some_iff {env : Environment} {name text : String} :
    env.text? name = some text ↔ env.values.lookup name = some (.ofString text) := by
  rw [text?, Option.bind_eq_some_iff]
  simp only [OsText.text?_eq_some_iff, exists_eq_right]

/-- The configuration `upper` is `lower` with the environment laid over it. -/
structure Environment.Layered (env : Environment) (lower upper : Config) : Prop where
  addr : Decides (env.text? "PGRELAY_BACKEND_ADDR") (fun text addr => text ≠ "" ∧ addr = text)
    lower.backend.addr upper.backend.addr
  connectTimeout : Decides (env.text? "PGRELAY_CONNECT_TIMEOUT")
    (fun text seconds => Text.Writes text.toList seconds.toNat)
    lower.backend.connectTimeoutSecs upper.backend.connectTimeoutSecs
  enable : Decides (env.text? "PGRELAY_SSL_ENABLE") (fun text on => on = true ↔ SwitchedOn text)
    lower.credentials.ssl.enable upper.credentials.ssl.enable
  caCert : Decides (env.text? "PGRELAY_SSL_CA") (fun text path => path = some (.ofString text))
    lower.credentials.ssl.caCertPath upper.credentials.ssl.caCertPath
  clientCert : Decides (env.text? "PGRELAY_SSL_CERT") (fun text path => path = some (.ofString text))
    lower.credentials.ssl.clientCertPath upper.credentials.ssl.clientCertPath
  clientKey : Decides (env.text? "PGRELAY_SSL_KEY") (fun text path => path = some (.ofString text))
    lower.credentials.ssl.clientKeyPath upper.credentials.ssl.clientKeyPath
  insecure : Decides (env.text? "PGRELAY_SSL_INSECURE") (fun text on => on = true ↔ SwitchedOn text)
    lower.credentials.ssl.insecure upper.credentials.ssl.insecure
  serverName : Decides (env.text? "PGRELAY_SSL_SERVER_NAME") (fun text name => name = some text)
    lower.credentials.ssl.serverName upper.credentials.ssl.serverName

theorem addr_decides (given : Option String) (lower upper : String) :
    Decides given (fun text addr => text ≠ "" ∧ addr = text) lower upper ↔
      upper = (given.filter (· ≠ "")).getD lower := by
  have reads (text addr : String) : (text ≠ "" ∧ addr = text) ↔
      (if text ≠ "" then some text else none) = some addr := by
    split <;> simp [*, eq_comm]
  rw [decides_iff reads]
  cases given with
  | none => rfl
  | some text => by_cases empty : text = "" <;> simp [Option.filter, empty]

theorem connectTimeout_decides (given : Option String) (lower upper : UInt64) :
    Decides given (fun text seconds => Text.Writes text.toList seconds.toNat) lower upper ↔
      upper = ((given.bind fun text =>
        Text.unsigned? Text.greatest64 text.toList).map UInt64.ofNat).getD lower := by
  have reads (text : String) (seconds : UInt64) : Text.Writes text.toList seconds.toNat ↔
      (Text.unsigned? Text.greatest64 text.toList).map UInt64.ofNat = some seconds := by
    rw [Option.map_eq_some_iff]
    constructor
    · intro written
      have within : seconds.toNat ≤ Text.greatest64 := Nat.le_of_lt_succ seconds.toNat_lt
      exact ⟨_, Text.unsigned?_eq_some_iff.mpr ⟨within, written⟩, UInt64.ofNat_toNat⟩
    · rintro ⟨n, read, rfl⟩
      obtain ⟨within, written⟩ := Text.unsigned?_eq_some_iff.mp read
      have same : (UInt64.ofNat n).toNat = n :=
        UInt64.toNat_ofNat_of_lt (Nat.lt_succ_of_le within)
      rwa [same]
  rw [decides_iff reads, Option.map_bind]
  rfl

theorem switch_decides (given : Option String) (lower upper : Bool) :
    Decides given (fun text on => on = true ↔ SwitchedOn text) lower upper ↔
      upper = (given.map Environment.isOn).getD lower := by
  have reads (text : String) (on : Bool) :
      (on = true ↔ SwitchedOn text) ↔ some (Environment.isOn text) = some on := by
    rw [← isOn_iff, Option.some.injEq, ← Bool.eq_iff_iff, eq_comm]
  rw [decides_iff reads]
  cases given <;> rfl

theorem verbatim_decides {Value : Type} (make : String → Value) (given : Option String)
    (lower upper : Option Value) :
    Decides given (fun text value => value = some (make text)) lower upper ↔
      upper = (given.map make).or lower := by
  have reads (text : String) (value : Option Value) :
      value = some (make text) ↔ some (some (make text)) = some value := by
    rw [Option.some.injEq, eq_comm]
  rw [decides_iff reads]
  cases given <;> rfl

theorem layered_iff {env : Environment} {lower upper : Config} :
    env.Layered lower upper ↔ upper = env.override lower := by
  constructor
  · rintro ⟨addr, connectTimeout, enable, caCert, clientCert, clientKey, insecure, serverName⟩
    rw [addr_decides] at addr
    rw [connectTimeout_decides] at connectTimeout
    rw [switch_decides] at enable insecure
    rw [verbatim_decides] at caCert clientCert clientKey
    replace serverName := (verbatim_decides id _ _ _).mp serverName
    rw [Option.map_id] at serverName
    obtain ⟨⟨_, _⟩, ⟨⟨_, _, _, _, _, _⟩⟩⟩ := upper
    dsimp only at *
    subst addr connectTimeout enable caCert clientCert clientKey insecure serverName
    rfl
  · rintro rfl
    constructor
    case addr => exact (addr_decides _ _ _).mpr rfl
    case connectTimeout => exact (connectTimeout_decides _ _ _).mpr rfl
    case enable => exact (switch_decides _ _ _).mpr rfl
    case insecure => exact (switch_decides _ _ _).mpr rfl
    case caCert => exact (verbatim_decides _ _ _ _).mpr rfl
    case clientCert => exact (verbatim_decides _ _ _ _).mpr rfl
    case clientKey => exact (verbatim_decides _ _ _ _).mpr rfl
    case serverName =>
      refine (verbatim_decides id _ _ _).mpr ?_
      rw [Option.map_id]
      rfl

/-! ## Loading -/

/-- What is read is a file with the UTF-8 bytes of the content, and nothing else can be read. -/
theorem read_eq_ok_iff {opened : Except IoError Opened} {content : String} :
    opened.bind Opened.text = .ok content ↔ opened = .ok (.file content.toUTF8.data.toList) := by
  rcases opened with e | ⟨bytes⟩ | _
  · simp [Except.bind]
  · have read : (Opened.file bytes).text = .ok content ↔ Utf8.text? bytes = some content := by
      simp only [Opened.text, Opened.content, bind, Except.bind]
      cases Utf8.text? bytes <;> simp
    simp only [Except.bind, read, Utf8.text?_eq_some_iff, Except.ok.injEq, Opened.file.injEq]
  · simp [Except.bind, Opened.text, Opened.content, bind]

theorem load_layered (files : FileSystem) (env : Environment) :
    match env.text? "PGRELAY_CONFIG" with
    | none => ∃ config, Config.load files env = .ok config ∧
        ∀ other, env.Layered {} other ↔ other = config
    | some path =>
      match (files (.ofString path)).bind Opened.text with
      | .error e => Config.load files env = .error (.unreadable (.ofString path) e) ∧
          ∀ content : String, files (.ofString path) ≠ .ok (.file content.toUTF8.data.toList)
      | .ok content => files (.ofString path) = .ok (.file content.toUTF8.data.toList) ∧
        match Config.parseInline content with
        | .error e => ∃ detail, e = .unparsable (.ofString "<inline>") detail ∧
            Config.load files env = .error (.unparsable (.ofString path) detail)
        | .ok file => ∃ config, Config.load files env = .ok config ∧
            ∀ other, env.Layered file other ↔ other = config := by
  unfold Config.load Environment.configFile?
  cases env.text? "PGRELAY_CONFIG" with
  | none => exact ⟨env.override {}, rfl, fun other => layered_iff⟩
  | some path =>
      dsimp only
      unfold Config.ofFile
      cases read : (files (.ofString path)).bind Opened.text with
      | error e =>
          refine ⟨rfl, fun content whole => ?_⟩
          rw [read_eq_ok_iff.mpr whole] at read
          cases read
      | ok content =>
          refine ⟨read_eq_ok_iff.mp read, ?_⟩
          simp only [Config.parseInline, Config.parse, bind, Except.bind, Except.mapError]
          cases Config.ofYaml content with
          | error refusal => exact ⟨refusal.detail, rfl, rfl⟩
          | ok file => exact ⟨env.override file, rfl, fun other => layered_iff⟩

end BackendLink
