import TokenStudio.TokenstudioConfig

/-!
# JSON files

The command line programs keep their data in JSON files.  `JsonFile α` is what
stands at a path: nothing, something that cannot be read or is not the expected
document, a document on which reading panics, or a document with its value.  A
file that the program has written holds the value that was written, since the
formats of `serde_json` read back what they write.

`read_json` has the same text in both programs.  Its errors are texts and name the
path.  `read_gate_config` has error texts of its own and validates what it reads.
-/

namespace TokenStudio

/-- What stands at a path. -/
inductive JsonFile (α : Type) where
  | absent
  | unreadable (message : String)
  | malformed (message : String)
  | panics
  | holds (value : α)
  deriving DecidableEq

/-- The text of the error for a file that is not there. -/
def notFoundText : String := "No such file or directory (os error 2)"

/-- `path.exists()`. -/
def JsonFile.pathExists {α : Type} : JsonFile α → Bool
  | .absent => false
  | _ => true

/-- `read_json`. -/
def readJson {α : Type} (path : String) : JsonFile α → Outcome String α
  | .absent => .err ("failed to read " ++ path ++ ": " ++ notFoundText)
  | .unreadable message => .err ("failed to read " ++ path ++ ": " ++ message)
  | .malformed message => .err ("invalid JSON in " ++ path ++ ": " ++ message)
  | .panics => .panic
  | .holds value => .ok value

/-- `fs::read` and `serde_json::from_slice` of `read_gate_config`. -/
def readConfig {α : Type} : JsonFile α → Outcome String α
  | .absent => .err ("failed to read or write config: " ++ notFoundText)
  | .unreadable message => .err ("failed to read or write config: " ++ message)
  | .malformed message => .err ("invalid config JSON: " ++ message)
  | .panics => .panic
  | .holds value => .ok value

/-- `read_gate_config`, with the text of its error. -/
def readGateConfig (file : JsonFile GateConfig) : Outcome String GateConfig := do
  let config ← readConfig file
  config.validate.mapErr ConfigError.toText
  pure config

@[simp] theorem readJson_eq_ok {α : Type} {path : String} {file : JsonFile α} {value : α} :
    readJson path file = .ok value ↔ file = .holds value := by
  cases file <;> simp [readJson]

@[simp] theorem readConfig_eq_ok {α : Type} {file : JsonFile α} {value : α} :
    readConfig file = .ok value ↔ file = .holds value := by
  cases file <;> simp [readConfig]

/-- A gate that was read is the one in the file, and it is valid. -/
theorem readGateConfig_eq_ok {file : JsonFile GateConfig} {gate : GateConfig} :
    readGateConfig file = .ok gate ↔ file = .holds gate ∧ gate.validate = .ok () := by
  simp only [readGateConfig, Outcome.bind_eq_ok, Outcome.exists_unit, Outcome.mapErr_eq_ok,
    Outcome.pure_eq, Outcome.ok.injEq, readConfig_eq_ok]
  constructor
  · rintro ⟨config, hfile, hvalid, rfl⟩
    exact ⟨hfile, hvalid⟩
  · rintro ⟨hfile, hvalid⟩
    exact ⟨gate, hfile, hvalid, rfl⟩

end TokenStudio
