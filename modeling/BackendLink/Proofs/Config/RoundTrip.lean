import BackendLink.Config.Document
import BackendLink.Proofs.Config.Written
import BackendLink.Proofs.Text.Utf8
import BackendLink.Proofs.Yaml.Scalar

/-!
# Written configurations are read back

* `Represents` says what a reader makes of a written value, in every document and at every path.
* `Fills` says the same of the entries of a record, with the keys in front of them taken.
* `ofYaml_toYaml` is the round trip. A setting without a value stays apart from the texts that mean
  null, because these are never written plain (`isAbsent_text`).
-/

namespace BackendLink.Config
open Yaml

/-- A written value that is read as `x`. -/
structure Represents {β : Type} (read : Reader β) (value : Written) (x : β) : Prop where
  fine : value.isFine = true
  reads : ∀ d path, read d path value.node = .ok x

/-! ## Values -/

theorem represents_flag (b : Bool) : Represents readFlag (writtenFlag b) b where
  fine := by cases b <;> decide
  reads d path := by cases b <;> rfl

theorem represents_seconds (n : UInt64) :
    Represents readSeconds (.word (toString n.toNat)) n where
  fine := by
    rw [Written.isFine, Nat.toString_eq_repr, Nat.toList_repr]
    exact isName_toDigits n.toNat
  reads d path := by
    have within : n.toNat ≤ Text.greatest64 := Nat.le_of_lt_succ n.toNat_lt
    simp [readSeconds, Written.node, Document.resolve, readsByText, unsigned?_toDigits within]

theorem represents_text (expected t : String) : Represents (readText expected) (.text t) t where
  fine := rfl
  reads d path := by simp [readText, Written.node, Document.resolve]

/-- A text that looks like nothing is not written plain. -/
theorem isAbsent_text (t : String) : isAbsent (Written.text t).node = .ok false := by
  have promised := Scanner.styled t.toList
  rw [Written.node]
  generalize style t.toList = chosen at promised ⊢
  cases promised with
  | plain plain itself =>
      unfold meaning at itself
      split at itself
      · cases itself
      · rename_i something
        rw [isAbsent, Bool.eq_false_iff.mpr something]
  | _ => rfl

theorem represents_some {β : Type} {read : Reader β} {t : String} {x : β}
    (represents : Represents read (.text t) x) :
    Represents (readOptional read) (.text t) (some x) where
  fine := represents.fine
  reads d path := by
    have stays : d.resolve (Written.text t).node = (Written.text t).node := rfl
    simp [readOptional, stays, isAbsent_text, bind, Except.bind, represents.reads, Except.map]

theorem represents_none {β : Type} (read : Reader β) :
    Represents (readOptional read) (.word "null") none where
  fine := by decide
  reads d path := rfl

theorem represents_path {p : Option OsText} (isText : ∀ path ∈ p, path.text?.isSome) :
    ∃ value, writtenPath p = .ok value ∧ Represents (readOptional readPath) value p := by
  cases p with
  | none => exact ⟨_, rfl, represents_none _⟩
  | some path =>
      obtain ⟨t, text⟩ := Option.isSome_iff_exists.mp (isText path rfl)
      refine ⟨.text t, by rw [writtenPath, text], represents_some ⟨rfl, fun d path => ?_⟩⟩
      rw [OsText.text?_eq_some_iff.mp text, readPath, (represents_text "path string" t).reads]
      rfl

theorem represents_optionalText (expected : String) (t : Option String) :
    Represents (readOptional (readText expected)) (writtenText t) t := by
  cases t with
  | none => exact represents_none _
  | some t => exact represents_some (represents_text expected t)

example : (writtenText none).render 0 = " null\n".toList ∧
    (writtenText (some "null")).render 0 = " 'null'\n".toList := by
  decide

/-! ## Records -/

/-- Entries with which a record goes from `a` to `b`, with the keys in `seen` taken. -/
structure Fills {α : Type} (record : Record α) (seen : List String)
    (entries : List (String × Written)) (a b : α) : Prop where
  fine : Written.areFine entries = true
  reads : ∀ d path, record.readEntries d path seen (Written.nodes entries) a = .ok b

section Record

variable {α β : Type} {record : Record α} {seen : List String} {key : String} {read : Reader β}
  {set : β → α → α} {value : Written} {more : List (String × Written)} {x : β} {a b default : α}

theorem Fills.nil : Fills record seen [] a a := ⟨rfl, fun _ _ => rfl⟩

theorem Fills.cons (named : (isName key.toList && decide (key.toList.length ≤ 1024)) = true)
    (found : record.field? key = some (.of key read set)) (fresh : key ∉ seen)
    (represents : Represents read value x) (later : Fills record (key :: seen) more (set x a) b) :
    Fills record seen ((key, value) :: more) a b where
  fine := by simp only [Written.areFine, named, represents.fine, later.fine, Bool.and_self]
  reads d path := by
    simp [Written.nodes, Record.readEntries, readKey, bind, Except.bind, found, fresh, Field.of,
      represents.reads, Except.map, later.reads]

theorem Fills.represents (nonempty : more ≠ []) (fills : Fills record [] more default b) :
    Represents (record.read default) (.record more) b where
  fine := by simp [Written.isFine, nonempty, fills.fine]
  reads d path := fills.reads d path

end Record

theorem represents_backend (c : BackendConfig) : Represents (backendRecord.read {}) (.record [
    ("addr", .text c.addr),
    ("connect_timeout_secs", .word (toString c.connectTimeoutSecs.toNat))]) c :=
  Fills.represents (by simp) <|
    .cons (by decide) rfl (by decide) (represents_text _ c.addr) <|
    .cons (by decide) rfl (by decide) (represents_seconds c.connectTimeoutSecs) .nil

/-- The paths that are set are texts. -/
structure HasTextPaths (c : Config) : Prop where
  caCert : ∀ path ∈ c.credentials.ssl.caCertPath, path.text?.isSome
  clientCert : ∀ path ∈ c.credentials.ssl.clientCertPath, path.text?.isSome
  clientKey : ∀ path ∈ c.credentials.ssl.clientKeyPath, path.text?.isSome

theorem represents_credentials {c : Config} (paths : c.HasTextPaths) :
    ∃ ssl, writtenSsl c.credentials.ssl = .ok ssl ∧
      Represents (credentialsRecord.read {}) (.record [("ssl", ssl)]) c.credentials := by
  obtain ⟨caCert, writtenCaCert, readsCaCert⟩ := represents_path paths.caCert
  obtain ⟨cert, writtenCert, readsCert⟩ := represents_path paths.clientCert
  obtain ⟨key, writtenKey, readsKey⟩ := represents_path paths.clientKey
  refine ⟨_, by simp only [writtenSsl, writtenCaCert, writtenCert, writtenKey, bind,
    Except.bind]; rfl, ?_⟩
  refine Fills.represents (by simp) (.cons (by decide) rfl (by decide) ?_ .nil)
  exact Fills.represents (by simp) <|
    .cons (by decide) rfl (by decide) (represents_flag c.credentials.ssl.enable) <|
    .cons (by decide) rfl (by decide) readsCaCert <|
    .cons (by decide) rfl (by decide) readsCert <|
    .cons (by decide) rfl (by decide) readsKey <|
    .cons (by decide) rfl (by decide) (represents_flag c.credentials.ssl.insecure) <|
    .cons (by decide) rfl (by decide) (represents_optionalText _ c.credentials.ssl.serverName) .nil

theorem represents_config {c : Config} (paths : c.HasTextPaths) :
    ∃ entries, entries ≠ [] ∧ writtenEntries c = .ok entries ∧
      Fills configRecord [] entries {} c := by
  obtain ⟨ssl, written, readsCredentials⟩ := represents_credentials paths
  refine ⟨_, ?_, by simp only [writtenEntries, written, bind, Except.bind]; rfl, ?_⟩
  · simp
  · exact .cons (by decide) rfl (by decide) (represents_backend c.backend) <|
      .cons (by decide) rfl (by decide) readsCredentials .nil

theorem ofYaml_toYaml (config : Config) (paths : config.HasTextPaths) :
    ∃ text, toYaml config = .ok text ∧ ofYaml text = .ok config := by
  obtain ⟨entries, nonempty, written, fills⟩ := represents_config paths
  refine ⟨_, by simp only [toYaml, written, bind, Except.bind]; rfl, ?_⟩
  have reads := (fills.represents nonempty).reads
    ⟨some (.mapping none (Written.nodes entries)), true⟩ []
  rw [Written.node] at reads
  rw [ofYaml, String.toList_ofList, Written.read_render nonempty fills.fine, ofDocument]
  simp only [reads, bind, Except.bind, if_true]

theorem ofYaml_toYaml_nullLike :
    let config : Config := { credentials := { ssl := {
      caCertPath := some (.ofString "null"), clientCertPath := some (.ofString "~"),
      clientKeyPath := some (.ofString ""), serverName := none } } }
    config.HasTextPaths ∧ ∃ text, toYaml config = .ok text ∧ ofYaml text = .ok config := by
  intro config
  have paths : config.HasTextPaths := ⟨by simp [config], by simp [config], by simp [config]⟩
  exact ⟨paths, ofYaml_toYaml config paths⟩

end BackendLink.Config
